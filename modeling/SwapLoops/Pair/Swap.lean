import SwapLoops.Pair

/-! What a swap pays out, in exact words. With `x = amountIn * (B - fee)` and
`B` the base of fees, the output is `x * reserveOut / (reserveIn * B + x)`,
rounded down; an empty input, an empty side or a product that does not fit
pays nothing. -/

namespace SwapLoops

def keptShare (fee : UInt32) : Word := BitVec.ofNat 256 (feeBase - fee).toNat

def swapOutput? (amountIn reserveIn reserveOut : Word) (fee : UInt32) : Option Word := do
  let paid ← amountIn.mul? (keptShare fee)
  let numerator ← paid.mul? reserveOut
  let scaled ← reserveIn.mul? (BitVec.ofNat 256 feeBase.toNat)
  let denominator ← scaled.add? paid
  if denominator = 0 then none else some (numerator / denominator)

def swapOutput (amountIn reserveIn reserveOut : Word) (fee : UInt32) : Word :=
  if amountIn = 0 ∨ reserveIn = 0 ∨ reserveOut = 0 ∨ feeBase ≤ fee then 0
  else (swapOutput? amountIn reserveIn reserveOut fee).getD 0

structure Side where
  received : Address
  reserveIn : Word
  reserveOut : Word
deriving DecidableEq, Repr

namespace Pair

def side? (p : Pair) (token : Address) : Option Side :=
  if token = p.token0 then some ⟨p.token1, p.reserve0, p.reserve1⟩
  else if token = p.token1 then some ⟨p.token0, p.reserve1, p.reserve0⟩
  else none

def reserveFor? (p : Pair) (token : Address) : Option Word :=
  (p.side? token).map Side.reserveIn

def otherToken? (p : Pair) (token : Address) : Option Address :=
  (p.side? token).map Side.received

def swap? (p : Pair) (token : Address) (amount : Word) : Option (Address × Word) :=
  (p.side? token).map fun s =>
    (s.received, swapOutput amount s.reserveIn s.reserveOut p.chargedFee)

end Pair

/-- The token held after each pair of the path was swapped through in turn. -/
def heldAfter? (path : List Pair) (token : Address) : Option Address :=
  path.foldlM (fun held p => p.otherToken? held) token

/-- A nonempty path that takes a token and gives it back. -/
def ReturnsTo (base : Address) (path : List Pair) : Prop :=
  path ≠ [] ∧ heldAfter? path base = some base

instance (base : Address) (path : List Pair) : Decidable (ReturnsTo base path) :=
  inferInstanceAs (Decidable (_ ∧ _))

def swapThrough? (path : List Pair) (token : Address) (amount : Word) :
    Option (Address × Word) :=
  path.foldlM (fun held p => p.swap? held.1 held.2) (token, amount)

/-- What comes back when an amount of a token is swapped through a path. A path
that does not lead back to the token pays nothing. -/
def pathOutput (token : Address) (amount : Word) (path : List Pair) : Word :=
  match swapThrough? path token amount with
  | some held => if held.1 = token then held.2 else 0
  | none => 0

end SwapLoops
