import SwapLoops.Ether
import SwapLoops.Fee
import SwapLoops.Path
import SwapLoops.Word.Text

/-! What the program is asked to do, from the words of its command line. -/

namespace SwapLoops

inductive Command
  | run (replay : Option Path)
  | scan (snapshot : Option Path) (minReceive : Option Decimal)
  | fee (amounts : SwapAmounts) (reserve0 reserve1 : Word)
  | help
deriving DecidableEq, Repr

namespace Command

/-- One word of a command line. An option may carry a value behind an equals sign. -/
inductive Argument
  | option (name : String) (value : Option String)
  | shortOption (letters : List Char)
  | endOfOptions
  | plain (text : String)

def Argument.ofString (s : String) : Argument :=
  match s.toList with
  | ['-', '-'] => .endOfOptions
  | '-' :: '-' :: rest =>
    match rest.dropWhile (· != '=') with
    | [] => .option (String.ofList rest) none
    | _ :: value => .option (String.ofList (rest.takeWhile (· != '='))) (some (String.ofList value))
  | '-' :: c :: rest => .shortOption (c :: rest)
  | _ => .plain s

/-- What a command was given. A flag is an option without a value. -/
structure Given where
  flags : List String
  values : List (String × String)
  plain : List String
  wantsHelp : Bool

def Given.nothing : Given := ⟨[], [], [], false⟩

structure Shape where
  flags : List String
  values : List (String × (String → Bool))
  plainCount : Nat
  isPlain : String → Bool

def Given.addFlag? (g : Given) (name : String) : Option Given :=
  if name ∈ g.flags then none else some { g with flags := name :: g.flags }

def Given.addValue? (shape : Shape) (g : Given) (name value : String) : Option Given :=
  match shape.values.lookup name with
  | some isValue =>
    if (g.values.lookup name).isNone && isValue value then
      some { g with values := (name, value) :: g.values }
    else none
  | none => none

def Given.addPlain? (shape : Shape) (g : Given) (text : String) : Option Given :=
  if g.plain.length < shape.plainCount && shape.isPlain text then
    some { g with plain := g.plain ++ [text] }
  else none

def readGiven (shape : Shape) (g : Given) : List String → Option Given
  | [] => some g
  | word :: rest =>
    match Argument.ofString word with
    | .endOfOptions => rest.foldlM (Given.addPlain? shape) g
    | .shortOption letters =>
      if letters.head? = some 'h' then some { g with wantsHelp := true } else none
    | .plain text => (g.addPlain? shape text).bind fun g => readGiven shape g rest
    | .option "help" none => some { g with wantsHelp := true }
    | .option name none =>
      if name ∈ shape.flags then (g.addFlag? name).bind fun g => readGiven shape g rest
      else
        match rest with
        | [] => none
        | value :: rest =>
          match Argument.ofString value with
          | .plain value => (g.addValue? shape name value).bind fun g => readGiven shape g rest
          | _ => none
    | .option name (some value) =>
      (g.addValue? shape name value).bind fun g => readGiven shape g rest

def Given.value? {α : Type} (g : Given) (name : String) (read : String → Option α) :
    Option (Option α) :=
  match g.values.lookup name with
  | none => some none
  | some text => (read text).map some

def readPath (text : String) : Option Path := if text = "" then none else some text

def readDecimal (text : String) : Option Decimal := (Decimal.ofText text).toOption

def ofRun (g : Given) : Option Command := do
  let replay ← g.value? "replay" readPath
  some (.run replay)

def ofScan (g : Given) : Option Command := do
  let snapshot ← g.value? "snapshot" readPath
  let minReceive ← g.value? "min-receive-eth" readDecimal
  some (.scan snapshot minReceive)

def ofFee (g : Given) : Option Command := do
  match ← g.plain.mapM Word.ofText? with
  | [in0, in1, out0, out1, reserve0, reserve1] =>
    some (.fee ⟨in0, in1, out0, out1⟩ reserve0 reserve1)
  | _ => none

/-- The flag that all commands take. It is about logs alone. -/
def commonFlags : List String := ["json"]

def isPath (text : String) : Bool := (readPath text).isSome

def runShape : Shape := ⟨commonFlags, [("replay", isPath)], 0, fun _ => false⟩

def scanShape : Shape :=
  ⟨commonFlags, [("snapshot", isPath), ("min-receive-eth", fun text => (readDecimal text).isSome)],
    0, fun _ => false⟩

def feeShape : Shape := ⟨commonFlags, [], 6, fun text => (Word.ofText? text).isSome⟩

def readCommand (shape : Shape) (words : List String) (of : Given → Option Command) :
    Option Command := do
  let g ← readGiven shape .nothing words
  if g.wantsHelp then some .help else of g

def ofName (name : String) (words : List String) : Option Command :=
  match name with
  | "run" => readCommand runShape words ofRun
  | "scan" => readCommand scanShape words ofScan
  | "fee" => readCommand feeShape words ofFee
  | "help" =>
    match words with
    | [] | ["run"] | ["scan"] | ["fee"] | ["help"] => some .help
    | _ => none
  | _ => none

/-- Reads the words up to the name of a command. Without one, the program runs. -/
def ofWords (flags : List String) : List String → Option Command
  | [] => some (.run none)
  | word :: rest =>
    match Argument.ofString word with
    | .plain name => ofName name rest
    | .endOfOptions => if rest = [] then some (.run none) else none
    | .shortOption letters => if letters.head? = some 'h' then some .help else none
    | .option "help" none => some .help
    | .option name none =>
      if name ∈ commonFlags ∧ name ∉ flags then ofWords (name :: flags) rest else none
    | .option _ (some _) => none

def ofArguments? (words : List String) : Option Command := ofWords [] words

end Command

end SwapLoops
