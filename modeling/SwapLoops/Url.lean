import SwapLoops.Url.Host

/-! Whether a text is an absolute URL, as browsers read one. -/

namespace SwapLoops.Url

def isTrimmed (c : Char) : Bool := c.toNat ≤ 0x20

def isSkipped (c : Char) : Bool := c = '\t' || c = '\n' || c = '\r'

/-- The text that counts: without controls and blanks around it, tabs and line ends. -/
def relevant (cs : List Char) : List Char :=
  let rest := ((cs.dropWhile isTrimmed).reverse.dropWhile isTrimmed).reverse
  rest.filter (!isSkipped ·)

def isSchemePart (c : Char) : Bool := c.isAlphanum || c = '+' || c = '-' || c = '.'

def splitScheme? (cs : List Char) : Option (String × List Char) :=
  match cs.dropWhile isSchemePart with
  | ':' :: rest =>
    if cs.head?.any Char.isAlpha then
      some (String.ofList ((cs.takeWhile isSchemePart).map Char.toLower), rest)
    else none
  | _ => none

def isSlash (c : Char) : Bool := c = '/' || c = '\\'

/-- Whether an authority ends here. A backslash ends it where it is read as a slash. -/
def endsAuthority (backslash : Bool) (c : Char) : Bool :=
  c = '/' || c = '?' || c = '#' || (backslash && c = '\\')

/-- The text before the last at sign, if there is one, and the text behind it. -/
def splitCredentials (authority : List Char) : Option (List Char) × List Char :=
  let host := (authority.reverse.takeWhile (· != '@')).reverse
  if host = authority then (none, host)
  else (some (authority.take (authority.length - host.length - 1)), host)

def splitPort (inside : Bool) : List Char → List Char × Option (List Char)
  | [] => ([], none)
  | c :: rest =>
    if c = ':' ∧ !inside then ([], some rest)
    else
      let inside := c = '[' || (inside && c != ']')
      let (host, port) := splitPort inside rest
      (c :: host, port)

/-- A port ends at a backslash, also where that is no slash. -/
def isPort : Option (List Char) → Bool
  | none => true
  | some text =>
    match Digits.toNat? 10 (text.takeWhile (· != '\\')) with
    | some n => n < UInt16.size
    | none => false

def isAuthority (authority : List Char) : Bool :=
  let (host, port) := splitPort false (splitCredentials authority).2
  isHost host && isPort port

/-- Whether an empty host may stand behind credentials. A lone colon is none; a lone
at sign is none at the end of the URL. -/
def isBare (credentials : Option (List Char)) (atEnd : Bool) : Bool :=
  match credentials with
  | none => true
  | some [] => atEnd
  | some text => text = [':']

def isOpaqueAuthority (authority after : List Char) : Bool :=
  let (credentials, rest) := splitCredentials authority
  let (host, port) := splitPort false rest
  isOpaqueHost host && isPort port &&
    (host ≠ [] || (port = none && isBare credentials (after = [])))

def isDriveLetter (cs : List Char) : Bool :=
  match cs with
  | [letter, mark] => letter.isAlpha && (mark = ':' || mark = '|')
  | _ => false

def isFileTail (rest : List Char) : Bool :=
  match rest with
  | a :: b :: rest =>
    if isSlash a && isSlash b then
      let host := rest.takeWhile (!endsAuthority true ·)
      host = [] || isDriveLetter host || isHost host
    else true
  | _ => true

def namedSchemes : List String := ["http", "https", "ws", "wss", "ftp"]

def isTail (scheme : String) (rest : List Char) : Bool :=
  if scheme ∈ namedSchemes then
    isAuthority ((rest.dropWhile isSlash).takeWhile (!endsAuthority true ·))
  else if scheme = "file" then isFileTail rest
  else
    match rest with
    | '/' :: '/' :: rest =>
      isOpaqueAuthority (rest.takeWhile (!endsAuthority false ·))
        (rest.dropWhile (!endsAuthority false ·))
    | _ => true

def isAbsolute (s : String) : Bool :=
  match splitScheme? (relevant s.toList) with
  | some (scheme, rest) => isTail scheme rest
  | none => false

end SwapLoops.Url
