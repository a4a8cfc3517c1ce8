import SwapLoops.Digits
import SwapLoops.Json

/-! Tokens as text, without blanks. Of a text only control characters, the quote
and the backslash are escaped. -/

namespace SwapLoops.Json

def escapeChar (c : Char) : List Char :=
  match c with
  | '"' => ['\\', '"']
  | '\\' => ['\\', '\\']
  | '\x08' => ['\\', 'b']
  | '\x0c' => ['\\', 'f']
  | '\n' => ['\\', 'n']
  | '\r' => ['\\', 'r']
  | '\t' => ['\\', 't']
  | c => if c.toNat < 0x20 then '\\' :: 'u' :: Digits.hex 4 c.toNat else [c]

def writeText (s : String) : List Char := '"' :: s.toList.flatMap escapeChar ++ ['"']

def writeToken : Token → List Char
  | .beginObject => ['\x7b']
  | .endObject => ['\x7d']
  | .beginList => ['[']
  | .endList => [']']
  | .comma => [',']
  | .colon => [':']
  | .null => ['n', 'u', 'l', 'l']
  | .bool true => ['t', 'r', 'u', 'e']
  | .bool false => ['f', 'a', 'l', 's', 'e']
  | .int n => (toString n).toList
  | .real => ['0', '.', '0']
  | .text s => writeText s

def write (ts : List Token) : String := String.ofList (ts.flatMap writeToken)

def objectTokens (members : List (String × Token)) : List Token :=
  let entries := members.map fun (name, value) => [.text name, .colon, value]
  .beginObject :: List.intercalate [.comma] entries ++ [.endObject]

end SwapLoops.Json
