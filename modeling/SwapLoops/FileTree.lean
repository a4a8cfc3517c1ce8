import Std.Data.ExtTreeMap
import SwapLoops.Path

/-! What a program asks of files, and a tree of files in memory that answers it. -/

namespace SwapLoops

inductive ReadError
  | missing
  | unopened
  | unreadable
deriving DecidableEq, Repr

/-- Operations on files in a monad. Writing replaces a file and tells whether it
could. -/
structure FileSystem (m : Type → Type) where
  read : Path → m (Except ReadError ByteArray)
  createDirectories : Path → m Bool
  write : Path → ByteArray → m Bool
  rename : Path → Path → m Bool

inductive FileNode
  | directory
  | file (content : ByteArray)

/-- Directories and files by the names that lead to them. The directory that
paths start in has no names; those above it are named by the steps up to them, and
the root has a name that no other may have. -/
abbrev FileTree := Std.ExtTreeMap (List String) FileNode

namespace FileTree

/-- Where a path leads: to a directory or a file, to a free place in a directory,
or nowhere, because a directory on the way is missing, a file is in the way or a
name is too long. -/
inductive Place
  | directory (names : List String)
  | file (names : List String) (content : ByteArray)
  | free (names : List String)
  | missing
  | blocked

def root : List String := ["/"]

def parent (names : List String) : List String :=
  if names = root then root
  else if names.all (· = "..") then names ++ [".."]
  else names.dropLast

def isTooLong (part : String) : Bool := Path.longestName < part.utf8ByteSize

/-- One part further from a directory. The parts to come tell whether it is the last. -/
def follow (t : FileTree) (here : List String) : List String → Place
  | [] => .directory here
  | part :: rest =>
    if part = "" ∨ part = "." then follow t here rest
    else if part = ".." then follow t (parent here) rest
    else if isTooLong part then .blocked
    else
      let there := here ++ [part]
      match t[there]? with
      | some .directory => follow t there rest
      | some (.file content) => if rest = [] then .file there content else .blocked
      | none => if rest = [] then .free there else .missing

def startOf (absolute : Bool) : List String := if absolute then root else []

def locate (t : FileTree) (p : Path) : Place :=
  let (absolute, parts) := p.parts
  if p = "" then .missing
  else if p.isSound then follow t (startOf absolute) parts
  else .blocked

def read (t : FileTree) (p : Path) : Except ReadError ByteArray :=
  match t.locate p with
  | .file _ content => .ok content
  | .directory _ => .error .unreadable
  | .free _ => .error .missing
  | .missing => .error .missing
  | .blocked => .error .unopened

/-- Adds each directory that the parts lead through, and tells whether none of them
was refused. Those before it stay. -/
def createFrom (t : FileTree) (here : List String) : List String → Bool × FileTree
  | [] => (true, t)
  | part :: rest =>
    if part = "" ∨ part = "." then createFrom t here rest
    else if part = ".." then createFrom t (parent here) rest
    else if isTooLong part then (false, t)
    else
      let there := here ++ [part]
      match t[there]? with
      | some .directory => createFrom t there rest
      | some (.file _) => (false, t)
      | none => createFrom (t.insert there .directory) there rest

def createDirectories (t : FileTree) (p : Path) : Bool × FileTree :=
  let (absolute, parts) := p.parts
  if p.isSound then t.createFrom (startOf absolute) parts else (false, t)

def write (t : FileTree) (p : Path) (content : ByteArray) : Option FileTree :=
  match t.locate p with
  | .file names _ => some (t.insert names (.file content))
  | .free names => some (t.insert names (.file content))
  | _ => none

def rename (t : FileTree) (source target : Path) : Option FileTree :=
  match t.locate source with
  | .file names content => FileTree.write (t.erase names) target content
  | _ => none

def remove (t : FileTree) (p : Path) : FileTree :=
  match t.locate p with
  | .file names _ => t.erase names
  | .directory names => t.filter fun names' _ => !names.isPrefixOf names'
  | _ => t

/-- Takes the outcome of a change, and keeps the tree if there was none. -/
def attempt (change : FileTree → Option FileTree) : StateM FileTree Bool := fun t =>
  match change t with
  | some t' => (true, t')
  | none => (false, t)

def system : FileSystem (StateM FileTree) where
  read := fun p t => (t.read p, t)
  createDirectories := fun p t => t.createDirectories p
  write := fun p content => attempt fun t => t.write p content
  rename := fun source target => attempt fun t => t.rename source target

def isInside (names : List String) : Bool := names.head? ≠ some ".." && names.head? ≠ root.head?

def files (t : FileTree) : List Path :=
  t.toList.filterMap fun (names, node) =>
    match node with
    | .file _ => if isInside names then some (String.intercalate "/" names) else none
    | .directory => none

def putDirectory (t : FileTree) (p : Path) : FileTree := (t.createDirectories p).2

def put (t : FileTree) (p : Path) (content : ByteArray) : FileTree :=
  let t := (p.directory?.map t.putDirectory).getD t
  (t.write p content).getD t

def putFiles (t : FileTree) (files : List (Path × ByteArray)) : FileTree :=
  files.foldl (fun t (p, content) => t.put p content) t

end FileTree

end SwapLoops
