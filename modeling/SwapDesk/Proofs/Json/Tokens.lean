import SwapDesk.Json.Printer
import SwapDesk.Json.Reader
import SwapDesk.Proofs.Text.Numerals

namespace SwapDesk.Json

/-- The ways to print a character, and what the reader sees of them. -/
inductive Printed (c : Char) : List Char → Piece → Prop
  | plain (unquoted : c ≠ '"') (unescaped : c ≠ '\\') (visible : 32 ≤ c.toNat) :
      Printed c [c] (.char c)
  | named (e : Char) (other : e ≠ 'u') (named : simpleEscape? e = some c) :
      Printed c ['\\', e] (.char c)
  | numbered (control : c.toNat < 32) :
      Printed c
        ['\\', 'u', '0', '0', Text.hexDigit (c.toNat / 16), Text.hexDigit (c.toNat % 16)]
        (.unit c.toNat)

theorem exists_printed (c : Char) : ∃ piece, Printed c (escapeChar c) piece := by
  have spelled {n : Nat} (same : c.toNat = n) : Char.ofNat n = c := by
    rw [← same, Char.ofNat_toNat]
  unfold escapeChar
  split
  · rename_i quote
    exact ⟨_, .named '"' (by decide) (congrArg some quote.symm)⟩
  split
  · rename_i backslash
    exact ⟨_, .named '\\' (by decide) (congrArg some backslash.symm)⟩
  split
  · rename_i newline
    exact ⟨_, .named 'n' (by decide) (congrArg some newline.symm)⟩
  split
  · rename_i carriageReturn
    exact ⟨_, .named 'r' (by decide) (congrArg some carriageReturn.symm)⟩
  split
  · rename_i tab
    exact ⟨_, .named 't' (by decide) (congrArg some tab.symm)⟩
  split
  · rename_i backspace
    exact ⟨_, .named 'b' (by decide) (congrArg some (spelled backspace))⟩
  split
  · rename_i formFeed
    exact ⟨_, .named 'f' (by decide) (congrArg some (spelled formFeed))⟩
  split
  · rename_i control
    exact ⟨_, .numbered control⟩
  · rename_i quote backslash _ _ _ _ _ visible
    exact ⟨_, .plain quote backslash (Nat.le_of_not_lt visible)⟩

theorem fourHex?_control {n : Nat} (control : n < 32) :
    fourHex? '0' '0' (Text.hexDigit (n / 16)) (Text.hexDigit (n % 16)) = some n := by
  have zero : Text.hexValue? '0' = some 0 := rfl
  have high := Text.hexValue?_hexDigit (show n / 16 < 16 by omega)
  have low := Text.hexValue?_hexDigit (show n % 16 < 16 by omega)
  simp only [fourHex?, zero, high, low, Option.bind_eq_bind, Option.bind_some]
  exact congrArg some (by omega)

namespace Printed

variable {c : Char} {cs : List Char} {piece : Piece}

theorem pieces?_append (printed : Printed c cs piece) (rest : List Char) :
    pieces? (cs ++ rest) = (pieces? rest).map fun (ps, rest) => (piece :: ps, rest) := by
  cases printed with
  | plain unquoted unescaped visible =>
      have printable : ¬ (c.toNat < 32 ∨ c = '\\') := by
        simp only [unescaped, or_false]
        exact Nat.not_lt.mpr visible
      rw [List.singleton_append, pieces?]
      · rw [if_neg printable]
        cases pieces? rest <;> rfl
      · exact unquoted
      · exact fun _ _ _ _ _ backslash => absurd backslash unescaped
      · exact fun _ _ backslash => absurd backslash unescaped
  | named e other named =>
      simp only [List.cons_append, List.nil_append]
      rw [pieces?, named]
      · cases pieces? rest <;> rfl
      · exact fun _ _ _ _ _ unit => absurd unit other
  | numbered control =>
      simp only [List.cons_append, List.nil_append]
      rw [pieces?, fourHex?_control control]
      cases pieces? rest <;> rfl

theorem assemble?_cons (printed : Printed c cs piece) (ps : List Piece) :
    assemble? (piece :: ps) = (assemble? ps).map (c :: ·) := by
  cases printed with
  | plain => rfl
  | named => rfl
  | numbered control =>
      have low : c.toNat < 0xD800 := by omega
      rw [assemble?.eq_def]
      simp only [low, true_or, if_true, Char.ofNat_toNat]

end Printed

theorem exists_pieces?_flatMap (cs rest : List Char) :
    ∃ ps, pieces? (cs.flatMap escapeChar ++ '"' :: rest) = some (ps, rest) ∧
      assemble? ps = some cs := by
  induction cs with
  | nil => exact ⟨[], rfl, rfl⟩
  | cons c cs ih =>
      obtain ⟨ps, seen, assembled⟩ := ih
      obtain ⟨piece, printed⟩ := exists_printed c
      refine ⟨piece :: ps, ?_, ?_⟩
      · rw [List.flatMap_cons, List.append_assoc, printed.pieces?_append, seen]
        rfl
      · rw [printed.assemble?_cons, assembled]
        rfl

theorem string?_stringChars (s : String) (rest : List Char) :
    string? (s.toList.flatMap escapeChar ++ '"' :: rest) = some (some s, rest) := by
  obtain ⟨ps, seen, assembled⟩ := exists_pieces?_flatMap s.toList rest
  rw [string?, seen]
  simp only [Option.bind_eq_bind, Option.bind_some, assembled, Option.map_some, String.ofList_toList]
  rfl

inductive Follows : List Char → Prop
  | nothing : Follows []
  | comma (rest : List Char) : Follows (',' :: rest)
  | bracket (rest : List Char) : Follows (']' :: rest)
  | brace (rest : List Char) : Follows ('}' :: rest)

theorem head?_decimalDigits_ne_zero {n : Nat} (positive : 0 < n) :
    (Text.decimalDigits n).head? ≠ some '0' := by
  have all : ∀ d < 10, 0 < d → Text.digitChar d ≠ '0' := by decide
  induction n using Text.decimalDigits.induct with
  | case1 n small =>
      rw [Text.decimalDigits, if_pos small]
      exact fun zero => all n small positive (Option.some.inj zero)
  | case2 n large ih =>
      have front := ih (by omega)
      obtain ⟨c, cs, digits⟩ := List.exists_cons_of_ne_nil (Text.decimalDigits_ne_nil (n / 10))
      rw [digits] at front
      rw [Text.decimalDigits, if_neg large, digits]
      exact front

theorem digitRun_append {ds rest : List Char} (digits : ∀ c ∈ ds, c.isDigit = true)
    (follows : Follows rest) : digitRun (ds ++ rest) = (ds, rest) := by
  have front : rest.takeWhile Char.isDigit = [] := by cases follows <;> rfl
  have back : rest.dropWhile Char.isDigit = rest := by cases follows <;> rfl
  rw [digitRun, List.takeWhile_append_of_pos digits, List.dropWhile_append_of_pos digits, front,
    back, List.append_nil]

theorem numeral?_decimalDigits (negative : Bool) (n : Nat) {rest : List Char}
    (follows : Follows rest) :
    numeral? negative (Text.decimalDigits n ++ rest) =
      some (⟨negative, Text.decimalDigits n, none, none⟩, rest) := by
  have digits : ∀ c ∈ Text.decimalDigits n, c.isDigit = true :=
    Text.forall_mem_decimalDigits (by decide) n
  have run := digitRun_append digits follows
  have single : (Text.decimalDigits n).head? = some '0' → (Text.decimalDigits n).length = 1 := by
    intro zero
    rcases Nat.eq_zero_or_pos n with rfl | positive
    · simp [Text.decimalDigits]
    · exact absurd zero (head?_decimalDigits_ne_zero positive)
  have allowed : ¬ ((Text.decimalDigits n).isEmpty = true ∨
      (Text.decimalDigits n).head? = some '0' ∧ (Text.decimalDigits n).length ≠ 1) := by
    simp only [List.isEmpty_iff, Text.decimalDigits_ne_nil, false_or, not_and, Decidable.not_not]
    exact single
  have fraction : fraction? rest = some (none, rest) := by cases follows <;> rfl
  have exponent : exponent? rest = some (none, rest) := by cases follows <;> rfl
  rw [numeral?, run]
  simp only [if_neg allowed, fraction, exponent, Option.bind_eq_bind, Option.bind_some]
  rfl

theorem significand_append {acc m : Nat} {xs : List Char} (fits : significand acc xs = (m, []))
    (ys : List Char) : significand acc (xs ++ ys) = significand m ys := by
  induction xs generalizing acc with
  | nil =>
      cases fits
      rfl
  | cons c cs ih =>
      rw [significand] at fits
      rw [List.cons_append, significand]
      split at fits
      · rename_i small
        rw [if_pos small]
        exact ih fits
      · exact nomatch fits

theorem significand_decimalDigits {n : Nat} (fits : n < 2 ^ 64) :
    significand 0 (Text.decimalDigits n) = (n, []) := by
  have all : ∀ d < 10, (Text.digitChar d).toNat - '0'.toNat = d := by decide
  induction n using Text.decimalDigits.induct with
  | case1 n small =>
      rw [Text.decimalDigits, if_pos small]
      simp only [significand, all n small]
      rw [if_pos (by omega)]
      simp
  | case2 n large ih =>
      have whole : n / 10 * 10 + n % 10 = n := by omega
      rw [Text.decimalDigits, if_neg large, significand_append (ih (by omega))]
      simp only [significand, all (n % 10) (by omega), whole, if_pos fits]

theorem toJson?_nonnegative {n : Nat} (fits : n < 2 ^ 64) :
    Numeral.toJson? ⟨false, Text.decimalDigits n, none, none⟩ = some (.int n) := by
  simp [Numeral.toJson?, significand_decimalDigits fits]

theorem toJson?_negative {n : Nat} (positive : 0 < n) (fits : n ≤ 2 ^ 63) :
    Numeral.toJson? ⟨true, Text.decimalDigits n, none, none⟩ = some (.int (-n)) := by
  have small : n < 2 ^ 64 := by omega
  simp [Numeral.toJson?, significand_decimalDigits small, Nat.ne_of_gt positive, fits]

end SwapDesk.Json
