import SwapLoops.Text.Split

/-! File paths as text, with a slash between names. -/

namespace SwapLoops

abbrev Path := String

namespace Path

def dropSlashes : List Char → List Char
  | '/' :: c :: rest => dropSlashes (c :: rest)
  | '.' :: '/' :: c :: rest => dropSlashes (c :: rest)
  | cs => cs

/-- The reversed name at the end of a path and the reversed text before it. -/
def splitEnd (p : Path) : List Char × List Char :=
  let body := dropSlashes p.toList.reverse
  (body.takeWhile (· != '/'), body.dropWhile (· != '/'))

def directory? (p : Path) : Option Path :=
  let (_, before) := splitEnd p
  if before = [] then none else some (String.ofList (dropSlashes before).reverse)

def isName (reversedName : List Char) : Bool :=
  reversedName ≠ [] && reversedName ≠ ['.'] && reversedName ≠ ['.', '.']

/-- The name up to its last dot. A dot that leads the name does not end it. -/
def stem (reversedName : List Char) : List Char :=
  match (reversedName.dropWhile (· != '.')).tail with
  | [] => reversedName
  | before => before

def extensionLength (reversedName : List Char) : Nat :=
  if isName reversedName && stem reversedName ≠ reversedName then
    (reversedName.takeWhile (· != '.')).length
  else 0

def extend (p : Path) (extension : String) : Path :=
  let (name, before) := splitEnd p
  if isName name then String.ofList (stem name ++ before).reverse ++ "." ++ extension else p

/-- The path with another extension. The old one is cut off first, and what is left
then may be no name. -/
def withExtension (p : Path) (extension : String) : Path :=
  extend (String.ofList (p.toList.reverse.drop (extensionLength (splitEnd p).1)).reverse) extension

/-- The parts between the slashes, and whether the path begins at the root. -/
def parts (p : Path) : Bool × List String :=
  match (Text.splitAt '/' p.toList).map String.ofList with
  | "" :: rest => (rest ≠ [], rest)
  | all => (false, all)

def longestName : Nat := 255

def longest : Nat := 4095

def isSound (p : Path) : Bool := p.utf8ByteSize ≤ longest && p.toList.all (·.toNat ≠ 0)

end Path

end SwapLoops
