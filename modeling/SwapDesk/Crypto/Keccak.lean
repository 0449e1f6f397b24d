import SwapDesk.Text.Hex

namespace SwapDesk.Keccak

abbrev State := Array UInt64

def lane (s : State) (x y : Nat) : UInt64 :=
  s.getD (5 * (y % 5) + x % 5) 0

def ofLanes (f : Nat → Nat → UInt64) : State :=
  ((List.range 25).map fun i => f (i % 5) (i / 5)).toArray

def rotate (w : UInt64) (k : Nat) : UInt64 :=
  if k % 64 = 0 then w
  else (w <<< UInt64.ofNat (k % 64)) ||| (w >>> UInt64.ofNat (64 - k % 64))

def distances : Array Nat :=
  #[0, 1, 62, 28, 27, 36, 44, 6, 55, 20, 3, 10, 43, 25, 39, 41, 45, 15, 21, 8, 18, 2, 61, 56, 14]

def roundConstants : List UInt64 :=
  [0x0000000000000001, 0x0000000000008082, 0x800000000000808A, 0x8000000080008000,
   0x000000000000808B, 0x0000000080000001, 0x8000000080008081, 0x8000000000008009,
   0x000000000000008A, 0x0000000000000088, 0x0000000080008009, 0x000000008000000A,
   0x000000008000808B, 0x800000000000008B, 0x8000000000008089, 0x8000000000008003,
   0x8000000000008002, 0x8000000000000080, 0x000000000000800A, 0x800000008000000A,
   0x8000000080008081, 0x8000000000008080, 0x0000000080000001, 0x8000000080008008]

def column (s : State) (x : Nat) : UInt64 :=
  lane s x 0 ^^^ lane s x 1 ^^^ lane s x 2 ^^^ lane s x 3 ^^^ lane s x 4

def mixColumns (s : State) : State :=
  ofLanes fun x y => lane s x y ^^^ column s (x + 4) ^^^ rotate (column s (x + 1)) 1

/-- Rotates every lane and moves lane (x, y) to (y, 2x + 3y). -/
def scatter (s : State) : State :=
  ofLanes fun u v =>
    let x := (u + 3 * v) % 5
    let y := u
    rotate (lane s x y) (distances.getD (5 * y + x) 0)

def mixRows (s : State) : State :=
  ofLanes fun x y => lane s x y ^^^ (~~~ (lane s (x + 1) y) &&& lane s (x + 2) y)

def round (s : State) (constant : UInt64) : State :=
  let t := mixRows (scatter (mixColumns s))
  t.setIfInBounds 0 (t.getD 0 0 ^^^ constant)

def permute (s : State) : State :=
  roundConstants.foldl round s

def rate : Nat := 136

def pad (message : Bytes) : Bytes :=
  let gap := rate - message.length % rate
  if gap = 1 then message ++ [0x81]
  else message ++ 0x01 :: (List.replicate (gap - 2) 0 ++ [0x80])

def littleEndian (bytes : Bytes) : UInt64 :=
  UInt64.ofNat (bytes.foldr (fun b acc => acc * 256 + b.toNat) 0)

def absorbBlock (s : State) (block : Bytes) : State :=
  permute <| ofLanes fun x y =>
    let i := 5 * y + x
    if i < rate / 8 then lane s x y ^^^ littleEndian ((block.drop (8 * i)).take 8) else lane s x y

def absorb : Nat → State → Bytes → State
  | 0, s, _ => s
  | blocks + 1, s, bytes => absorb blocks (absorbBlock s (bytes.take rate)) (bytes.drop rate)

def laneBytes (w : UInt64) : Bytes :=
  (List.range 8).map fun i => UInt8.ofNat (w.toNat / 256 ^ i % 256)

def digest (message : Bytes) : Bytes :=
  let padded := pad message
  let s := absorb (padded.length / rate) (Array.replicate 25 0) padded
  (s.toList.take 4).flatMap laneBytes

end SwapDesk.Keccak
