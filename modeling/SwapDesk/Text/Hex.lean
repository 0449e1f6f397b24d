import SwapDesk.Power

namespace SwapDesk

/-- Bytes are lists, which is what proofs can take apart. -/
abbrev Bytes := List UInt8

namespace Bytes

def bigEndian : Nat → Nat → Bytes
  | 0, _ => []
  | width + 1, n => bigEndian width (n / 256) ++ [UInt8.ofNat (n % 256)]

def value (bytes : Bytes) : Nat :=
  bytes.foldl (fun acc byte => acc * 256 + byte.toNat) 0

/-- The bytes of the first `width` items; what is left over is for `spare` to judge. -/
def ofItems? {α : Type} (byte? : α → Option UInt8) (spare : List α → Bool) (width : Nat)
    (items : List α) : Option Bytes :=
  if width ≤ items.length && spare (items.drop width) then (items.take width).mapM byte? else none

@[simp] theorem length_bigEndian (width n : Nat) : (bigEndian width n).length = width := by
  induction width generalizing n with
  | zero => rfl
  | succ width ih => simp [bigEndian, ih]

@[simp] theorem value_nil : value [] = 0 := rfl

theorem value_concat (bytes : Bytes) (byte : UInt8) :
    value (bytes ++ [byte]) = value bytes * 256 + byte.toNat := by
  simp [value, List.foldl_append]

theorem value_bigEndian (width n : Nat) : value (bigEndian width n) = n % 256 ^ width := by
  induction width generalizing n with
  | zero => simp [bigEndian, Nat.mod_one]
  | succ width ih =>
      have low : (UInt8.ofNat (n % 256)).toNat = n % 256 := by simp
      rw [bigEndian, value_concat, ih, low, Nat.pow_succ, Nat.mul_comm (256 ^ width) 256,
        Nat.mod_mul]
      omega

end Bytes

namespace Text

def hexDigit (n : Nat) : Char :=
  if n < 10 then Char.ofNat ('0'.toNat + n) else Char.ofNat ('a'.toNat + (n - 10))

def hexValue? (c : Char) : Option Nat :=
  if '0' ≤ c ∧ c ≤ '9' then some (c.toNat - '0'.toNat)
  else if 'a' ≤ c ∧ c ≤ 'f' then some (c.toNat - 'a'.toNat + 10)
  else if 'A' ≤ c ∧ c ≤ 'F' then some (c.toNat - 'A'.toNat + 10)
  else none

def hexOfBytes : Bytes → List Char
  | [] => []
  | b :: bs => hexDigit (b.toNat / 16) :: hexDigit (b.toNat % 16) :: hexOfBytes bs

def bytesOfHex? : List Char → Option Bytes
  | [] => some []
  | [_] => none
  | hi :: lo :: rest => do
      let h ← hexValue? hi
      let l ← hexValue? lo
      let bs ← bytesOfHex? rest
      return UInt8.ofNat (h * 16 + l) :: bs

def withoutHexMark : List Char → List Char
  | '0' :: 'x' :: rest => rest
  | '0' :: 'X' :: rest => rest
  | cs => cs

def hex (bytes : Bytes) : String :=
  String.ofList ('0' :: 'x' :: hexOfBytes bytes)

def readHex? (s : String) : Option Bytes :=
  bytesOfHex? (withoutHexMark s.toList)

/-- Exactly `width` bytes written with or without a mark, as a number. -/
def readFixedHex? (width : Nat) (s : String) : Option Nat :=
  ((readHex? s).filter fun bytes => bytes.length == width).map Bytes.value

def hexDigits (n : Nat) : List Char :=
  if n < 16 then [hexDigit n] else hexDigits (n / 16) ++ [hexDigit (n % 16)]

def hexQuantity (n : Nat) : String :=
  String.ofList ('0' :: 'x' :: hexDigits n)

end Text

end SwapDesk
