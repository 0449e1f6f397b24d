import SwapDesk.Power

namespace SwapDesk.Text

def digitChar (n : Nat) : Char :=
  Char.ofNat ('0'.toNat + n)

def digitValue? (c : Char) : Option Nat :=
  if '0' ≤ c ∧ c ≤ '9' then some (c.toNat - '0'.toNat) else none

def decimalDigits (n : Nat) : List Char :=
  if n < 10 then [digitChar n] else decimalDigits (n / 10) ++ [digitChar (n % 10)]

def decimal (n : Nat) : String :=
  String.ofList (decimalDigits n)

def integer (n : Int) : String :=
  match n with
  | .ofNat m => decimal m
  | .negSucc m => "-" ++ decimal (m + 1)

/-- Continues a numeral whose digits so far are worth `acc`. -/
def digitsValueFrom? (acc : Nat) : List Char → Option Nat
  | [] => some acc
  | c :: cs =>
      match digitValue? c with
      | some d => digitsValueFrom? (acc * 10 + d) cs
      | none => none

def digitsValue? (cs : List Char) : Option Nat :=
  if cs.isEmpty then none else digitsValueFrom? 0 cs

/-- An unsigned numeral below `limit`; one leading plus sign is allowed. -/
def unsignedBelow? (limit : Nat) (cs : List Char) : Option Nat :=
  let body := match cs with
    | '+' :: rest => rest
    | _ => cs
  (digitsValue? body).filter (· < limit)

def readUInt64? (s : String) : Option UInt64 :=
  (unsignedBelow? UInt64.size s.toList).map UInt64.ofNat

def readInt64? (s : String) : Option Int :=
  match s.toList with
  | '-' :: rest => ((digitsValue? rest).filter (· ≤ 2 ^ 63)).map fun n => -Int.ofNat n
  | cs => (unsignedBelow? (2 ^ 63) cs).map Int.ofNat

theorem digitsValueFrom?_append (acc : Nat) (xs ys : List Char) :
    digitsValueFrom? acc (xs ++ ys) =
      (digitsValueFrom? acc xs).bind fun n => digitsValueFrom? n ys := by
  induction xs generalizing acc with
  | nil => rfl
  | cons c cs ih =>
      simp only [List.cons_append, digitsValueFrom?]
      cases digitValue? c with
      | none => rfl
      | some d => exact ih _

end SwapDesk.Text
