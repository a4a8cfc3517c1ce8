/-! Variables by name. Of two variables of one name the first counts. -/

namespace SwapLoops

abbrev Environment := List (String × String)

namespace Environment

def get? (env : Environment) (name : String) : Option String := env.lookup name

structure Unsettable where
  name : String
deriving DecidableEq, Repr

/-- Adds a variable, unless there is one of its name. No value holds a character of
code zero. -/
def fill (env : Environment) (name value : String) : Except Unsettable Environment :=
  if (env.get? name).isSome then .ok env
  else if value.toList.all (·.toNat ≠ 0) then .ok (env ++ [(name, value)])
  else .error ⟨name⟩

end Environment

end SwapLoops
