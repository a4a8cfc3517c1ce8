import SwapLoops.Environment
import SwapLoops.Text.Blank
import SwapLoops.Unicode.Alphanumeric

/-! Files of variables, one assignment in a line. Values may be quoted, also over
several lines, and may name other variables. Variables that are set already keep
their values. Nothing is read behind the first line that is malformed. -/

namespace SwapLoops.Environment.File

/-! ## From bytes to lines of text -/

def byteLines (line : List UInt8) : List UInt8 → List (List UInt8)
  | [] => if line = [] then [] else [line.reverse]
  | b :: rest =>
    if b = 10 then (b :: line).reverse :: byteLines [] rest else byteLines (b :: line) rest

def dropMark : List UInt8 → List UInt8
  | 0xEF :: 0xBB :: 0xBF :: rest => rest
  | bytes => bytes

/-- The lines before the first one that is not text. -/
def textLines (content : ByteArray) : List (List Char) :=
  let decoded := (byteLines [] (dropMark content.toList)).map fun line =>
    (String.fromUTF8? ⟨line.toArray⟩).map String.toList
  (decoded.takeWhile Option.isSome).filterMap id

/-! ## From lines to entries, which end outside of quotes -/

inductive Quoting
  | plain
  | blank
  | escape
  | single
  | singleEscape
  | double
  | doubleEscape
  | comment
deriving DecidableEq

def Quoting.next (q : Quoting) (c : Char) : Quoting :=
  match q with
  | .plain =>
    if Text.isBlank c && c != '\n' && c != '\r' then .blank
    else if c = '\\' then .escape
    else if c = '"' then .double
    else if c = '\'' then .single
    else .plain
  | .blank =>
    if c = '\\' then .escape
    else if c = '"' then .double
    else if c = '\'' then .single
    else .plain
  | .escape => .plain
  | .single => if c = '\\' then .singleEscape else if c = '\'' then .plain else .single
  | .singleEscape => .single
  | .double => if c = '\\' then .doubleEscape else if c = '"' then .plain else .double
  | .doubleEscape => .double
  | .comment => .comment

/-- The characters of a line up to a comment, and the quoting at their end. -/
def scanLine (q : Quoting) : List Char → List Char × Quoting
  | [] => ([], q)
  | c :: rest =>
    if q = .blank ∧ c = '#' then ([], .comment)
    else
      let (kept, last) := scanLine (q.next c) rest
      (c :: kept, last)

def dropBlanks (cs : List Char) : List Char := cs.dropWhile Text.isBlank

def entriesFrom (held : List Char) (q : Quoting) : List (List Char) → List (List Char)
  | [] => []
  | line :: rest =>
    let entry := held ++ line
    if (dropBlanks entry).head? = some '#' then entriesFrom [] .plain rest
    else
      match scanLine q line with
      | (_, .plain) => entry :: entriesFrom [] .plain rest
      | (kept, .comment) => (held ++ kept) :: entriesFrom [] .plain rest
      | (_, q) => entriesFrom entry q rest

/-! ## From entries to variables -/

def isNameStart (c : Char) : Bool := c.isAlpha || c = '_'

def isNamePart (c : Char) : Bool := c.isAlphanum || c = '_' || c = '.'

def splitName (cs : List Char) : Option (String × List Char) :=
  if cs.head?.any isNameStart then
    some (String.ofList (cs.takeWhile isNamePart), dropBlanks (cs.dropWhile isNamePart))
  else none

def afterEquals : List Char → Option (List Char)
  | '=' :: rest => some (dropBlanks rest)
  | _ => none

/-- The name and the text of the value. The word `export` may stand before a name. -/
def splitEntry (cs : List Char) : Option (String × List Char) := do
  let (name, rest) ← splitName cs
  match afterEquals rest with
  | some value => some (name, value)
  | none =>
    if name = "export" then do
      let (name, rest) ← splitName rest
      let value ← afterEquals rest
      some (name, value)
    else none

/-- What the next character of a value belongs to. The flag tells whether double
quotes are open. -/
inductive Mode
  | plain (quoted : Bool)
  | single
  | escape (quoted : Bool)
  | name (quoted : Bool) (name : List Char)
  | braced (quoted : Bool) (name : List Char)
  | ending
  | comment

structure Value where
  mode : Mode
  text : List Char

def valueOf (env : Environment) (name : List Char) : List Char :=
  ((env.get? (String.ofList name)).getD "").toList

def stepPlain (quoted : Bool) (text : List Char) (c : Char) : Value :=
  if c = '$' then ⟨.name quoted [], text⟩
  else if c = '"' then ⟨.plain !quoted, text⟩
  else if c = '\\' then ⟨.escape quoted, text⟩
  else if quoted then ⟨.plain quoted, text ++ [c]⟩
  else if c = '\'' then ⟨.single, text⟩
  else if c = ' ' ∨ c = '\t' then ⟨.ending, text⟩
  else ⟨.plain quoted, text ++ [c]⟩

def stepName (env : Environment) (quoted : Bool) (name text : List Char) (c : Char) : Value :=
  if Unicode.isAlphanumeric c then ⟨.name quoted (name ++ [c]), text⟩
  else if c = '\x7b' ∧ name = [] then ⟨.braced quoted [], text⟩
  else
    let text := text ++ valueOf env name
    if c = '$' then ⟨.name quoted [], text⟩ else ⟨.plain quoted, text ++ [c]⟩

def step (env : Environment) (v : Value) (c : Char) : Option Value :=
  match v.mode with
  | .plain quoted => some (stepPlain quoted v.text c)
  | .single => some (if c = '\'' then ⟨.plain false, v.text⟩ else ⟨.single, v.text ++ [c]⟩)
  | .escape quoted =>
    if c ∈ ['\\', '\'', '"', '$', ' '] then some ⟨.plain quoted, v.text ++ [c]⟩
    else if c = 'n' then some ⟨.plain quoted, v.text ++ ['\n']⟩
    else none
  | .name quoted name => some (stepName env quoted name v.text c)
  | .braced quoted name =>
    if c = '\x7d' then some ⟨.plain quoted, v.text ++ valueOf env name⟩
    else some ⟨.braced quoted (name ++ [c]), v.text⟩
  | .ending =>
    if c = ' ' ∨ c = '\t' then some v else if c = '#' then some ⟨.comment, v.text⟩ else none
  | .comment => some v

def Value.finish (env : Environment) (v : Value) : Option (List Char) :=
  match v.mode with
  | .plain quoted => if quoted then none else some v.text
  | .escape quoted => if quoted then none else some v.text
  | .name quoted name => if quoted then none else some (v.text ++ valueOf env name)
  | .single => none
  | .braced _ _ => none
  | .ending => some v.text
  | .comment => some v.text

def readValue (env : Environment) (cs : List Char) : Option String :=
  if cs = [] ∨ cs.head? = some '#' then some ""
  else do
    let v ← cs.foldlM (step env) ⟨.plain false, []⟩
    (v.finish env).map String.ofList

def fillFrom (env : Environment) : List (List Char) → Except Unsettable Environment
  | [] => .ok env
  | entry :: rest =>
    match Text.trimList entry with
    | [] => fillFrom env rest
    | cs =>
      if cs.head? = some '#' then fillFrom env rest
      else
        match splitEntry cs with
        | none => .ok env
        | some (name, value) =>
          match readValue env value with
          | none => .ok env
          | some value => (env.fill name value).bind fun env => fillFrom env rest

def load (env : Environment) (content : ByteArray) : Except Unsettable Environment :=
  fillFrom env (entriesFrom [] .plain (textLines content))

end SwapLoops.Environment.File
