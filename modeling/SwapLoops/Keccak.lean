/-! The 256-bit sponge hash that addresses are checksummed with: a permutation
of 25 lanes of 64 bits, a rate of 136 bytes and the domain byte 1. -/

namespace SwapLoops.Keccak

/-- Lane `(x, y)` stands at `x + 5 * y`. -/
abbrev State := Vector UInt64 25

def lane (s : State) (x y : Nat) : UInt64 := s.getD (x % 5 + 5 * (y % 5)) 0

def build (f : Nat → Nat → UInt64) : State := Vector.ofFn fun i => f (i.val % 5) (i.val / 5)

def rotateLeft (w : UInt64) (n : Nat) : UInt64 :=
  if n % 64 = 0 then w
  else (w <<< UInt64.ofNat (n % 64)) ||| (w >>> UInt64.ofNat (64 - n % 64))

def columnParity (s : State) : State :=
  build fun x _ => lane s x 0 ^^^ lane s x 1 ^^^ lane s x 2 ^^^ lane s x 3 ^^^ lane s x 4

def theta (s : State) : State :=
  let c := columnParity s
  build fun x y => lane s x y ^^^ lane c (x + 4) 0 ^^^ rotateLeft (lane c (x + 1) 0) 1

def offsets : Vector Nat 25 :=
  #v[0, 1, 62, 28, 27, 36, 44, 6, 55, 20, 3, 10, 43, 25, 39, 41, 45, 15, 21, 8, 18, 2, 61, 56, 14]

/-- Rotates each lane and moves it: the lane at `(x, y)` comes from `(x + 3 * y, x)`. -/
def rhoPi (s : State) : State :=
  build fun x y =>
    rotateLeft (lane s (x + 3 * y) x) (offsets.getD ((x + 3 * y) % 5 + 5 * x) 0)

def chi (s : State) : State :=
  build fun x y => lane s x y ^^^ (~~~(lane s (x + 1) y) &&& lane s (x + 2) y)

def roundConstants : List UInt64 :=
  [0x0000000000000001, 0x0000000000008082, 0x800000000000808a, 0x8000000080008000,
   0x000000000000808b, 0x0000000080000001, 0x8000000080008081, 0x8000000000008009,
   0x000000000000008a, 0x0000000000000088, 0x0000000080008009, 0x000000008000000a,
   0x000000008000808b, 0x800000000000008b, 0x8000000000008089, 0x8000000000008003,
   0x8000000000008002, 0x8000000000000080, 0x000000000000800a, 0x800000008000000a,
   0x8000000080008081, 0x8000000000008080, 0x0000000080000001, 0x8000000080008008]

def permute (s : State) : State :=
  roundConstants.foldl
    (fun s constant =>
      let s := chi (rhoPi (theta s))
      s.set 0 (s.getD 0 0 ^^^ constant))
    s

def rate : Nat := 136

def pad (message : List UInt8) : List UInt8 :=
  let gap := rate - message.length % rate
  if gap = 1 then message ++ [0x81]
  else message ++ [0x01] ++ List.replicate (gap - 2) 0 ++ [0x80]

def laneOfBytes (bytes : List UInt8) : UInt64 :=
  bytes.foldr (fun b acc => (acc <<< 8) ||| b.toUInt64) 0

def absorb (s : State) (block : List UInt8) : State :=
  permute (build fun x y =>
    lane s x y ^^^ laneOfBytes ((block.drop (8 * (x + 5 * y))).take 8))

def absorbAll (s : State) (bytes : List UInt8) : State :=
  match bytes with
  | [] => s
  | b :: bs => absorbAll (absorb s ((b :: bs).take rate)) (bs.drop (rate - 1))
termination_by bytes.length
decreasing_by
  simp only [List.length_drop, List.length_cons, rate]
  omega

def bytesOfLane (w : UInt64) : List UInt8 :=
  (List.range 8).map fun i => (w >>> UInt64.ofNat (8 * i)).toUInt8

def hash256 (message : List UInt8) : List UInt8 :=
  let s := absorbAll (Vector.replicate 25 0) (pad message)
  (List.range 4).flatMap fun i => bytesOfLane (s.getD i 0)

end SwapLoops.Keccak
