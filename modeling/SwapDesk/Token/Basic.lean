import SwapDesk.Failure

/-!
Tokens and their amounts. People write amounts as decimal numerals; contracts count base units, of
which a token with `d` decimals has 10^d to one.
-/

namespace SwapDesk

structure Token where
  symbol : String
  address : Address
  decimals : UInt8
  chain : UInt64
deriving DecidableEq, Inhabited

namespace Units

/-- More decimals than this do not fit the scale of 256 bits. -/
def maxDecimals : Nat := 77

/-- Letters are digits above nine, so that they are refused as too large. -/
def digitValue? (c : Char) : Option Nat :=
  if 'a' ≤ c ∧ c ≤ 'z' then some (c.toNat - 'a'.toNat + 10)
  else if 'A' ≤ c ∧ c ≤ 'Z' then some (c.toNat - 'A'.toNat + 10)
  else Text.digitValue? c

/-- A run of digits with `_` between them at will; nothing at all is zero. -/
def magnitudeFrom? (acc : Nat) : List Char → Option Nat
  | [] => some acc
  | c :: cs =>
      if c = '_' then magnitudeFrom? acc cs
      else do
        let d ← digitValue? c
        if d < 10 ∧ acc * 10 + d < 2 ^ 256 then magnitudeFrom? (acc * 10 + d) cs else none

def magnitude? (cs : List Char) : Option Nat :=
  magnitudeFrom? 0 cs

def byteLength (cs : List Char) : Nat :=
  cs.foldr (fun c size => c.utf8Size + size) 0

/-- Drops bytes from the front of a reversed text; none when a character would be torn. -/
def dropBytes? : Nat → List Char → Option (List Char)
  | 0, cs => some cs
  | _ + 1, [] => none
  | n + 1, c :: cs => if c.utf8Size ≤ n + 1 then dropBytes? (n + 1 - c.utf8Size) cs else none
termination_by _ cs => cs.length

def dropBytesRight? (n : Nat) (cs : List Char) : Option (List Char) :=
  (dropBytes? n cs.reverse).map List.reverse

def splitPoint (cs : List Char) : List Char × List Char :=
  (cs.takeWhile (· ≠ '.'), (cs.dropWhile (· ≠ '.')).drop 1)

/-- A numeral with its point removed and the power of ten that is still missing. Surplus places
are cut off by bytes; none when that tears a character. -/
def align? (decimals : Nat) (cs : List Char) : Option (List Char × Nat) :=
  let (whole, places) := splitPoint cs
  let size := byteLength places
  if decimals < size then
    (dropBytesRight? (size - decimals) places).map fun kept => (whole ++ kept, 0)
  else some (whole ++ places, decimals - size)

inductive Reading where
  | amount (w : Word)
  | negative
  | malformed
  | torn
deriving DecidableEq

/-- A numeral that starts with a minus sign is read in signed 256-bit arithmetic. -/
def readSigned (digits : List Char) (missing : Nat) : Reading :=
  if digits.isEmpty then .amount 0
  else
    match magnitude? digits with
    | none => .malformed
    | some m =>
        if 2 ^ 255 < m ∨ 2 ^ 255 ≤ 10 ^ missing ∨ 2 ^ 255 < m * 10 ^ missing then .malformed
        else if m = 0 then .amount 0 else .negative

def readUnsigned (digits : List Char) (missing : Nat) : Reading :=
  match magnitude? digits with
  | none => .malformed
  | some m => if m * 10 ^ missing < 2 ^ 256 then .amount (BitVec.ofNat 256 (m * 10 ^ missing))
      else .malformed

def read (decimals : Nat) (cs : List Char) : Reading :=
  if maxDecimals < decimals then .malformed
  else
    match align? decimals cs with
    | none => .torn
    | some (digits, missing) =>
        if cs.head? = some '-' then readSigned (digits.drop 1) missing
        else readUnsigned digits missing

/-- The fraction always has as many places as the token has decimals, and at least one. -/
def format (decimals : Nat) (w : Word) : List Char :=
  let places := Text.decimalDigits (w.toNat % 10 ^ decimals)
  Text.decimalDigits (w.toNat / 10 ^ decimals) ++
    '.' :: (List.replicate (decimals - places.length) '0' ++ places)

end Units

namespace Token

def toBaseUnits (t : Token) (human : String) : Except Halt Word :=
  match Units.read t.decimals.toNat (Text.trimChars human.toList) with
  | .amount w => .ok w
  | .negative => .error (.failed (.amount (.negative human)))
  | .malformed => .error (.failed (.amount (.malformed human t.symbol)))
  | .torn => .error .crashed

/-- Amounts of tokens with too many decimals are shown in base units. -/
def formatUnits (t : Token) (w : Word) : String :=
  if Units.maxDecimals < t.decimals.toNat then w.decimal
  else String.ofList (Units.format t.decimals.toNat w)

end Token

end SwapDesk
