import SwapDesk.Power

namespace SwapDesk.Domain.Punycode

def digit? (c : Char) : Option Nat :=
  if 'a' ≤ c ∧ c ≤ 'z' then some (c.toNat - 'a'.toNat)
  else if '0' ≤ c ∧ c ≤ '9' then some (c.toNat - '0'.toNat + 26)
  else none

def threshold (k bias : Nat) : Nat :=
  if k ≤ bias then 1 else min 26 (k - bias)

def scaleDown (delta k : Nat) : Nat × Nat :=
  if 455 < delta then scaleDown (delta / 35) (k + 36) else (delta, k)
termination_by delta
decreasing_by omega

def adapt (delta count : Nat) (isFirst : Bool) : Nat :=
  let halved := if isFirst then delta / 700 else delta / 2
  let (delta, k) := scaleDown (halved + halved / count) 0
  k + 36 * delta / (delta + 38)

def limit : Nat := 2 ^ 32

def number? (bias k weight acc : Nat) : List Char → Option (Nat × List Char)
  | [] => none
  | c :: cs =>
      match digit? c with
      | none => none
      | some d =>
          let acc := acc + d * weight
          let t := threshold k bias
          let next := weight * (36 - t)
          if limit ≤ acc then none
          else if d < t then some (acc, cs)
          else if limit ≤ next then none
          else number? bias (k + 36) next acc cs

theorem length_lt_of_number? {bias k weight acc n : Nat} {cs rest : List Char}
    (h : number? bias k weight acc cs = some (n, rest)) : rest.length < cs.length := by
  induction cs generalizing k weight acc with
  | nil => simp [number?] at h
  | cons c cs ih =>
      simp only [number?] at h
      split at h
      · simp at h
      · split at h
        · simp at h
        · split at h
          · simp only [Option.some.injEq, Prod.mk.injEq] at h
            simp [← h.2]
          · split at h
            · simp at h
            · exact Nat.lt_succ_of_lt (ih h)

/-- Inserts the characters that differences lead to, beginning after the place and the code point of
the last one. -/
def insertAll? (chars : List Char) (code place bias : Nat) (cs : List Char) :
    Option (List Char) :=
  if cs.isEmpty then some chars
  else
    match _h : number? bias 36 1 place cs with
    | none => none
    | some (moved, rest) =>
        let count := chars.length + 1
        let code := code + moved / count
        let here := moved % count
        if limit ≤ code ∨ !code.isValidChar then none
        else
          insertAll? (chars.insertIdx here (Char.ofNat code)) code (here + 1)
            (adapt (moved - place) count (place == 0)) rest
termination_by cs.length
decreasing_by exact length_lt_of_number? (by assumption)

def longest : Nat := 2000

def decode? (cs : List Char) : Option (List Char) :=
  let basic := ((cs.reverse.dropWhile (· != '-')).drop 1).reverse
  let differences := if basic.isEmpty then cs else cs.drop (basic.length + 1)
  if longest < cs.length then none else insertAll? basic 128 0 72 differences

end SwapDesk.Domain.Punycode
