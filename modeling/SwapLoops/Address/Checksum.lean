import SwapLoops.Address
import SwapLoops.Keccak

/-! The mixed-case form of an address: a letter is in upper case where the hash
of the lower-case digits has a high nibble at the same place. -/

namespace SwapLoops.Address

def nibbles (bytes : List UInt8) : List Nat :=
  bytes.flatMap fun b => [b.toNat / 16, b.toNat % 16]

def checksumDigits (a : Address) : List Char :=
  let hash := Keccak.hash256 (a.digits.map fun c => UInt8.ofNat c.toNat)
  List.zipWith (fun c nibble => if 8 ≤ nibble then c.toUpper else c) a.digits (nibbles hash)

def checksum (a : Address) : String := "0x" ++ String.ofList a.checksumDigits

end SwapLoops.Address
