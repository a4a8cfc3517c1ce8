/-! JSON values and the tokens they are written with. Of numbers only the
integers of 64 bits keep their value; no reader here asks for another. -/

namespace SwapLoops

inductive Json
  | null
  | bool (b : Bool)
  | int (n : Int)
  | real
  | text (s : String)
  | list (items : List Json)
  | object (fields : List (String × Json))

namespace Json

inductive Token
  | beginObject
  | endObject
  | beginList
  | endList
  | comma
  | colon
  | null
  | bool (b : Bool)
  | int (n : Int)
  | real
  | text (s : String)
deriving DecidableEq, Repr

end Json

end SwapLoops
