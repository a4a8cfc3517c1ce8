import SwapLoops.Json.Lexer

/-! From tokens to values, one token at a time. Containers that were begun and
not ended stand on a stack, of a bounded height. -/

namespace SwapLoops.Json

/-- A container part way through, its latest entry first. -/
inductive Frame
  | list (items : List Json)
  | object (fields : List (String × Json))
  | member (fields : List (String × Json)) (name : String)

/-- What may come next: a value, with or without the end of a list before the
first one; a name, with or without the end of an object; the colon after a name;
what follows an entry; nothing. -/
inductive Expects
  | value
  | firstItem
  | firstName
  | name
  | colon (name : String)
  | separator
  | nothing (result : Json)

structure State where
  stack : List Frame
  expects : Expects

/-- The least number of open containers that is refused. -/
def depthLimit : Nat := 128

def State.initial : State := ⟨[], .value⟩

/-- Puts a finished value into the container it stands in. -/
def finish (stack : List Frame) (v : Json) : Option State :=
  match stack with
  | [] => some ⟨[], .nothing v⟩
  | .list items :: outer => some ⟨.list (v :: items) :: outer, .separator⟩
  | .member fields name :: outer => some ⟨.object ((name, v) :: fields) :: outer, .separator⟩
  | .object _ :: _ => none

def beginFrame (stack : List Frame) (frame : Frame) (expects : Expects) : Option State :=
  if stack.length + 1 < depthLimit then some ⟨frame :: stack, expects⟩ else none

def endList (stack : List Frame) : Option State :=
  match stack with
  | .list items :: outer => finish outer (.list items.reverse)
  | _ => none

def endObject (stack : List Frame) : Option State :=
  match stack with
  | .object fields :: outer => finish outer (.object fields.reverse)
  | _ => none

def stepValue (stack : List Frame) (t : Token) : Option State :=
  match t with
  | .beginObject => beginFrame stack (.object []) .firstName
  | .beginList => beginFrame stack (.list []) .firstItem
  | .null => finish stack .null
  | .bool b => finish stack (.bool b)
  | .int n => finish stack (.int n)
  | .real => finish stack .real
  | .text s => finish stack (.text s)
  | _ => none

def stepName (stack : List Frame) (t : Token) : Option State :=
  match t with
  | .text s => some ⟨stack, .colon s⟩
  | _ => none

def stepColon (stack : List Frame) (name : String) (t : Token) : Option State :=
  match t, stack with
  | .colon, .object fields :: outer => some ⟨.member fields name :: outer, .value⟩
  | _, _ => none

def stepSeparator (stack : List Frame) (t : Token) : Option State :=
  match t, stack with
  | .comma, .list _ :: _ => some ⟨stack, .value⟩
  | .comma, .object _ :: _ => some ⟨stack, .name⟩
  | .endList, _ => endList stack
  | .endObject, _ => endObject stack
  | _, _ => none

def step (s : State) (t : Token) : Option State :=
  match s.expects with
  | .value => stepValue s.stack t
  | .firstItem => if t = .endList then endList s.stack else stepValue s.stack t
  | .firstName => if t = .endObject then endObject s.stack else stepName s.stack t
  | .name => stepName s.stack t
  | .colon name => stepColon s.stack name t
  | .separator => stepSeparator s.stack t
  | .nothing _ => none

def ofTokens? (ts : List Token) : Option Json :=
  match ts.foldlM step .initial with
  | some ⟨_, .nothing v⟩ => some v
  | _ => none

def ofText? (s : String) : Option Json := (lex s.toList).bind ofTokens?

end SwapLoops.Json
