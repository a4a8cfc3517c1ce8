import SwapLoops.Address

/-! The name of an ordered path of pairs, under which its attempts are counted. -/

namespace SwapLoops

def pathKey (pairs : List Address) : String :=
  String.ofList (List.intercalate ['-'] (pairs.map Address.digits))

end SwapLoops
