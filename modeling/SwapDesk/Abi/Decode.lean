import SwapDesk.Abi.Encode

/-!
Reading laid-out data back. Offsets may point anywhere inside the data, bytes behind what is read
do not matter, and padding is not looked at; an offset or length above 64 bits is refused.
-/

namespace SwapDesk.Abi

def readWord? (data : Bytes) : Option Word :=
  let front := data.take 32
  if front.length = 32 then some (Word.ofBytes front) else none

def readSize? (data : Bytes) : Option Nat :=
  ((readWord? data).map BitVec.toNat).filter (· < 2 ^ 64)

def seek? (data : Bytes) (offset : Nat) : Option Bytes :=
  if offset ≤ data.length then some (data.drop offset) else none

/-- Follows the offset in the first word of `here`, which counts from the start of `base`. -/
def follow? (base here : Bytes) : Option Bytes := do
  let offset ← readSize? here
  seek? base offset

def readWords? : Nat → Bytes → Option (List Word)
  | 0, _ => some []
  | n + 1, data => do
      let w ← readWord? data
      let ws ← readWords? n (data.drop 32)
      return w :: ws

def readWordArray? (data : Bytes) : Option (List Word) := do
  let n ← readSize? data
  readWords? n (data.drop 32)

def readBytes? (data : Bytes) : Option Bytes := do
  let n ← readSize? data
  let body := (data.drop 32).take n
  if body.length = n then some body else none

def readParts? {α : Type} (part? : Bytes → Option α) (base : Bytes) : Nat → Bytes → Option (List α)
  | 0, _ => some []
  | n + 1, here => do
      let data ← follow? base here
      let x ← part? data
      let xs ← readParts? part? base n (here.drop 32)
      return x :: xs

def readArray? {α : Type} (part? : Bytes → Option α) (data : Bytes) : Option (List α) := do
  let n ← readSize? data
  readParts? part? (data.drop 32) n (data.drop 32)

def readSingle? {α : Type} (body? : Bytes → Option α) (data : Bytes) : Option α := do
  let body ← follow? data data
  body? body

end SwapDesk.Abi
