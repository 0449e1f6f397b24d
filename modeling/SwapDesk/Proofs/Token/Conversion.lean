import Mathlib.Algebra.Order.Floor.Semifield
import Mathlib.Data.Nat.Digits.Defs
import Mathlib.Data.Rat.Floor
import SwapDesk.Proofs.Token.Cutting

/-!
Numerals and base units. A numeral is worth a rational number, and an amount is the floor of that
number at the token's scale. The reading gets there by cutting surplus places off the text or by
multiplying for missing ones; either way it stops exactly where a word overflows.
-/

namespace SwapDesk

namespace Units

/-- Digits in front of a point and after it. The point is absent when `places` is. -/
structure Numeral where
  whole : List (Fin 10)
  places : Option (List (Fin 10))

def digits (ds : List (Fin 10)) : List Char :=
  ds.map fun d : Fin 10 => Text.digitChar d.val

def worth (ds : List (Fin 10)) : ℕ :=
  Nat.ofDigits 10 (ds.reverse.map Fin.val)

namespace Numeral

def chars (n : Numeral) : List Char :=
  digits n.whole ++
    match n.places with
    | none => []
    | some places => '.' :: digits places

def fraction (n : Numeral) : List (Fin 10) :=
  n.places.getD []

def value (n : Numeral) : ℚ :=
  worth n.whole + worth n.fraction / 10 ^ n.fraction.length

def units (n : Numeral) (decimals : ℕ) : ℕ :=
  ⌊n.value * 10 ^ decimals⌋₊

def kept (n : Numeral) (decimals : ℕ) : List (Fin 10) :=
  n.whole ++ n.fraction.take decimals

/-- Signed arithmetic holds the power of ten that missing places call for. Of the scales a token can
have, only 10^77 is too large for it: `-0` is no amount of a token with that many decimals. -/
def Scales (n : Numeral) (decimals : ℕ) : Prop :=
  n.kept decimals = [] ∨ 10 ^ (decimals - n.fraction.length) < 2 ^ 255

instance (n : Numeral) (decimals : ℕ) : Decidable (n.Scales decimals) :=
  inferInstanceAs (Decidable (_ ∨ _))

end Numeral

/-! ## The worth of digits -/

@[simp] theorem worth_nil : worth [] = 0 := rfl

theorem worth_append (xs ys : List (Fin 10)) :
    worth (xs ++ ys) = worth xs * 10 ^ ys.length + worth ys := by
  rw [worth, List.reverse_append, List.map_append, Nat.ofDigits_append, List.length_map,
    List.length_reverse, worth, worth, Nat.add_comm, Nat.mul_comm]

theorem worth_cons (d : Fin 10) (ds : List (Fin 10)) :
    worth (d :: ds) = d * 10 ^ ds.length + worth ds := by
  have single : worth [d] = d := Nat.ofDigits_singleton
  rw [← List.singleton_append, worth_append, single]

theorem worth_lt (ds : List (Fin 10)) : worth ds < 10 ^ ds.length := by
  have small : ∀ x ∈ ds.reverse.map Fin.val, x < 10 := by
    intro x mem
    obtain ⟨d, -, rfl⟩ := List.mem_map.mp mem
    exact d.isLt
  have bound := Nat.ofDigits_lt_base_pow_length (by norm_num) small
  rwa [List.length_map, List.length_reverse] at bound

theorem le_scaled (m places : ℕ) : m ≤ m * 10 ^ places :=
  Nat.le_mul_of_pos_right m (by positivity)

namespace Numeral

theorem value_nonneg (n : Numeral) : 0 ≤ n.value := by
  rw [value]
  positivity

theorem value_eq (n : Numeral) :
    n.value = (worth (n.whole ++ n.fraction) : ℚ) / (10 ^ n.fraction.length : ℕ) := by
  have scale : (10 : ℚ) ^ n.fraction.length ≠ 0 := by positivity
  rw [value, worth_append]
  push_cast
  field_simp

theorem units_eq_div (n : Numeral) (decimals : ℕ) :
    n.units decimals =
      worth (n.whole ++ n.fraction) * 10 ^ decimals / 10 ^ n.fraction.length := by
  rw [units, value_eq, ← Nat.floor_div_eq_div (K := ℚ)]
  congr 1
  push_cast
  ring

theorem units_of_surplus {n : Numeral} {decimals : ℕ} (surplus : decimals < n.fraction.length) :
    n.units decimals = worth (n.kept decimals) := by
  have size : n.fraction.length = decimals + (n.fraction.drop decimals).length := by
    rw [List.length_drop]
    omega
  have cut : n.whole ++ n.fraction = n.kept decimals ++ n.fraction.drop decimals := by
    rw [kept, List.append_assoc, List.take_append_drop]
  -- The places cut off are together worth less than one unit.
  have lost := worth_lt (n.fraction.drop decimals)
  rw [units_eq_div, cut, worth_append, size, Nat.pow_add, Nat.mul_comm (10 ^ decimals),
    Nat.mul_div_mul_right _ _ (by positivity), Nat.mul_comm, Nat.mul_add_div (by positivity),
    Nat.div_eq_of_lt lost, Nat.add_zero]

theorem units_of_missing {n : Numeral} {decimals : ℕ} (missing : n.fraction.length ≤ decimals) :
    n.units decimals = worth (n.kept decimals) * 10 ^ (decimals - n.fraction.length) := by
  have scale : 10 ^ decimals = 10 ^ (decimals - n.fraction.length) * 10 ^ n.fraction.length := by
    rw [← Nat.pow_add, Nat.sub_add_cancel missing]
  rw [units_eq_div, kept, List.take_of_length_le missing, scale, ← Nat.mul_assoc,
    Nat.mul_div_cancel _ (by positivity)]

theorem units_eq (n : Numeral) (decimals : ℕ) :
    n.units decimals = worth (n.kept decimals) * 10 ^ (decimals - n.fraction.length) := by
  rcases Nat.lt_or_ge decimals n.fraction.length with surplus | missing
  · rw [units_of_surplus surplus, Nat.sub_eq_zero_of_le surplus.le, Nat.pow_zero, Nat.mul_one]
  · exact units_of_missing missing

theorem units_mono {n m : Numeral} (le : n.value ≤ m.value) (decimals : ℕ) :
    n.units decimals ≤ m.units decimals := by
  apply Nat.floor_mono
  gcongr

end Numeral

/-! ## The reading of digits -/

theorem utf8Size_digitChar (d : Fin 10) : (Text.digitChar d).utf8Size = 1 := by
  revert d
  decide

theorem digitValue?_digitChar (d : Fin 10) : digitValue? (Text.digitChar d) = some d := by
  revert d
  decide

theorem digitChar_ne {c : Char} (mark : c = '.' ∨ c = '_' ∨ c = '-' ∨ c = '+') (d : Fin 10) :
    Text.digitChar d ≠ c := by
  rcases mark with rfl | rfl | rfl | rfl
  all_goals
    revert d
    decide

@[simp] theorem digits_cons (d : Fin 10) (ds : List (Fin 10)) :
    digits (d :: ds) = Text.digitChar d :: digits ds := rfl

@[simp] theorem digits_append (xs ys : List (Fin 10)) :
    digits (xs ++ ys) = digits xs ++ digits ys :=
  List.map_append

theorem not_mem_digits {c : Char} (mark : c = '.' ∨ c = '_' ∨ c = '-' ∨ c = '+')
    (ds : List (Fin 10)) : c ∉ digits ds := by
  intro mem
  obtain ⟨d, -, same⟩ := List.mem_map.mp mem
  exact digitChar_ne mark d same

theorem byteLength_digits (ds : List (Fin 10)) : byteLength (digits ds) = ds.length := by
  induction ds with
  | nil => rfl
  | cons d ds ih =>
      change (Text.digitChar d).utf8Size + byteLength (digits ds) = ds.length + 1
      rw [ih, utf8Size_digitChar, Nat.add_comm]

theorem magnitudeFrom?_digits (acc : ℕ) (holds : acc < 2 ^ 256) (ds : List (Fin 10)) :
    magnitudeFrom? acc (digits ds) =
      if acc * 10 ^ ds.length + worth ds < 2 ^ 256 then some (acc * 10 ^ ds.length + worth ds)
      else none := by
  induction ds generalizing acc with
  | nil => simp [digits, magnitudeFrom?, holds]
  | cons d ds ih =>
      have shift : acc * 10 ^ (ds.length + 1) + worth (d :: ds) =
          (acc * 10 + d) * 10 ^ ds.length + worth ds := by
        rw [worth_cons, Nat.pow_succ]
        ring
      have grows := le_scaled (acc * 10 + d) ds.length
      rw [digits_cons, magnitudeFrom?, if_neg (digitChar_ne (by simp) d),
        digitValue?_digitChar, List.length_cons, shift]
      by_cases next : acc * 10 + d < 2 ^ 256
      · simpa [next, d.isLt] using ih _ next
      · -- No later digit makes the number smaller again.
        have tooLarge : ¬ (acc * 10 + d) * 10 ^ ds.length + worth ds < 2 ^ 256 := by omega
        simp [next, tooLarge]

theorem magnitude?_digits (ds : List (Fin 10)) :
    magnitude? (digits ds) = if worth ds < 2 ^ 256 then some (worth ds) else none := by
  simpa [magnitude?] using magnitudeFrom?_digits 0 (by norm_num) ds

theorem readUnsigned_digits (ds : List (Fin 10)) (missing : ℕ) :
    readUnsigned (digits ds) missing =
      if worth ds * 10 ^ missing < 2 ^ 256 then .amount (BitVec.ofNat 256 (worth ds * 10 ^ missing))
      else .malformed := by
  have grows := le_scaled (worth ds) missing
  rw [readUnsigned, magnitude?_digits]
  by_cases holds : worth ds < 2 ^ 256
  · rw [if_pos holds]
  · rw [if_neg holds, if_neg (by omega)]

theorem readSigned_digits (ds : List (Fin 10)) (missing : ℕ) :
    readSigned (digits ds) missing =
      if ds = [] ∨ 10 ^ missing < 2 ^ 255 then
        if worth ds * 10 ^ missing = 0 then .amount 0
        else if worth ds * 10 ^ missing ≤ 2 ^ 255 then .negative
        else .malformed
      else .malformed := by
  cases ds with
  | nil => simp [readSigned, digits]
  | cons d ds =>
      have grows := le_scaled (worth (d :: ds)) missing
      have zero : worth (d :: ds) * 10 ^ missing = 0 ↔ worth (d :: ds) = 0 := by
        simp
      have digit : d :: ds ≠ [] := List.cons_ne_nil d ds
      rw [readSigned, if_neg (by simp), magnitude?_digits]
      by_cases holds : worth (d :: ds) < 2 ^ 256
      · simp only [if_pos holds, digit, false_or, zero]
        split_ifs <;> first | rfl | omega
      · simp only [if_neg holds, digit, false_or, zero]
        split_ifs <;> first | rfl | omega

namespace Numeral

theorem splitPoint_chars (n : Numeral) :
    splitPoint n.chars = (digits n.whole, digits n.fraction) := by
  have absent : '.' ∉ digits n.whole := not_mem_digits (by simp) n.whole
  rw [chars, fraction]
  cases n.places with
  | none => simpa [digits] using splitPoint_of_not_mem absent
  | some places => exact splitPoint_append absent (digits places)

def shortened (n : Numeral) (decimals : ℕ) : Numeral :=
  ⟨n.whole, n.places.map (List.take decimals)⟩

theorem fraction_shortened (n : Numeral) (decimals : ℕ) :
    (n.shortened decimals).fraction = n.fraction.take decimals := by
  cases places : n.places <;> simp [shortened, fraction, places]

theorem cut_chars (n : Numeral) (decimals : ℕ) :
    Cut decimals n.chars (n.shortened decimals).chars (digits (n.fraction.drop decimals)) where
  parts := by
    cases places : n.places with
    | none => simp [chars, shortened, fraction, places, digits]
    | some ds =>
        simp only [chars, shortened, fraction, places, Option.map_some, Option.getD_some,
          List.append_assoc, List.cons_append]
        rw [← digits_append, List.take_append_drop]
  surplus := by
    rw [splitPoint_chars, byteLength_digits, byteLength_digits, List.length_drop]

theorem align?_chars (n : Numeral) (decimals : ℕ) :
    align? decimals n.chars =
      some (digits (n.kept decimals), decimals - n.fraction.length) := by
  have places : splitPoint (n.shortened decimals).chars =
      (digits n.whole, digits (n.fraction.take decimals)) := by
    rw [splitPoint_chars, fraction_shortened]
    rfl
  have left : decimals - min decimals n.fraction.length = decimals - n.fraction.length := by
    omega
  rw [(n.cut_chars decimals).align?_eq_some, ← splitPoint_erase, places, byteLength_digits,
    List.length_take, left, kept, digits_append]

end Numeral

theorem align?_cons {c : Char} (point : c ≠ '.') (decimals : ℕ) (cs : List Char) :
    align? decimals (c :: cs) =
      (align? decimals cs).map fun aligned => (c :: aligned.1, aligned.2) := by
  have split : splitPoint (c :: cs) = (c :: (splitPoint cs).1, (splitPoint cs).2) := by
    simp [splitPoint, point]
  rw [align?, align?, split]
  simp only
  split
  · cases dropBytesRight? _ _ <;> rfl
  · rfl

namespace Numeral

theorem head?_chars_ne_minus (n : Numeral) : n.chars.head? ≠ some '-' := by
  intro minus
  have mem : '-' ∈ n.chars := List.mem_of_mem_head? minus
  have absent := not_mem_digits (c := '-') (by simp)
  unfold chars at mem
  cases places : n.places with
  | none => simp [places, absent] at mem
  | some ds => simp [places, absent] at mem

theorem read_chars {decimals : ℕ} (fits : decimals ≤ maxDecimals) (n : Numeral) :
    read decimals n.chars =
      if n.units decimals < 2 ^ 256 then .amount (BitVec.ofNat 256 (n.units decimals))
      else .malformed := by
  rw [read, if_neg (Nat.not_lt.mpr fits), align?_chars]
  simp only [if_neg n.head?_chars_ne_minus]
  rw [readUnsigned_digits, units_eq]

theorem read_minus_chars {decimals : ℕ} (fits : decimals ≤ maxDecimals) (n : Numeral) :
    read decimals ('-' :: n.chars) =
      if n.Scales decimals then
        if n.units decimals = 0 then .amount 0
        else if n.units decimals ≤ 2 ^ 255 then .negative
        else .malformed
      else .malformed := by
  rw [read, if_neg (Nat.not_lt.mpr fits), align?_cons (by decide), align?_chars]
  simp only [Option.map_some, List.head?_cons, if_true, List.drop_succ_cons, List.drop_zero]
  rw [readSigned_digits, units_eq]
  rfl

end Numeral

/-- The number that a text spells between its blanks. -/
inductive Spells (human : String) : ℚ → Prop
  | plain (n : Numeral) : Text.trimChars human.toList = n.chars → Spells human n.value
  | negated (n : Numeral) : Text.trimChars human.toList = '-' :: n.chars → Spells human (-n.value)

end Units

namespace Token

open SwapDesk.Units

/-- A numeral comes to the floor of its value at the token's scale, or is refused when no word holds
that. A negated one comes to nothing or is refused. -/
structure ConvertsExactly (t : Token) : Prop where
  plain : ∀ (human : String) (n : Numeral), Text.trimChars human.toList = n.chars →
    t.toBaseUnits human =
      if n.units t.decimals.toNat < 2 ^ 256 then .ok (BitVec.ofNat 256 (n.units t.decimals.toNat))
      else .error (.failed (.amount (.malformed human t.symbol)))
  negated : ∀ (human : String) (n : Numeral), Text.trimChars human.toList = '-' :: n.chars →
    t.toBaseUnits human =
      if n.units t.decimals.toNat = 0 ∧ n.Scales t.decimals.toNat then .ok 0
      else .error (.failed (.amount (
        if n.units t.decimals.toNat ≤ 2 ^ 255 ∧ n.Scales t.decimals.toNat then .negative human
        else .malformed human t.symbol)))
  monotone : ∀ (low high : String) (v w : ℚ), Spells low v → Spells high w → v ≤ w →
    ∀ a b, t.toBaseUnits low = .ok a → t.toBaseUnits high = .ok b → a ≤ b
  holdsBelow : ∀ (low high : String) (n m : Numeral), Text.trimChars low.toList = n.chars →
    Text.trimChars high.toList = m.chars → n.value ≤ m.value →
    ∀ b, t.toBaseUnits high = .ok b → ∃ a ≤ b, t.toBaseUnits low = .ok a

variable {t : Token} {human : String} {n : Numeral}

theorem toBaseUnits_chars (fits : t.decimals.toNat ≤ maxDecimals)
    (text : Text.trimChars human.toList = n.chars) :
    t.toBaseUnits human =
      if n.units t.decimals.toNat < 2 ^ 256 then .ok (BitVec.ofNat 256 (n.units t.decimals.toNat))
      else .error (.failed (.amount (.malformed human t.symbol))) := by
  rw [toBaseUnits, text, n.read_chars fits]
  split_ifs <;> rfl

theorem toBaseUnits_minus_chars (fits : t.decimals.toNat ≤ maxDecimals)
    (text : Text.trimChars human.toList = '-' :: n.chars) :
    t.toBaseUnits human =
      if n.units t.decimals.toNat = 0 ∧ n.Scales t.decimals.toNat then .ok 0
      else .error (.failed (.amount (
        if n.units t.decimals.toNat ≤ 2 ^ 255 ∧ n.Scales t.decimals.toNat then .negative human
        else .malformed human t.symbol))) := by
  rw [toBaseUnits, text, n.read_minus_chars fits]
  by_cases scales : n.Scales t.decimals.toNat
  · simp only [scales, and_true, if_true]
    split_ifs <;> rfl
  · simp only [scales, and_false, if_false]

theorem toNat_of_spells (fits : t.decimals.toNat ≤ maxDecimals) {v : ℚ} (spells : Spells human v)
    {w : Word} (read : t.toBaseUnits human = .ok w) :
    w.toNat = ⌊v * 10 ^ t.decimals.toNat⌋₊ := by
  cases spells with
  | plain n text =>
      rw [toBaseUnits_chars fits text] at read
      split_ifs at read with holds
      obtain rfl := Except.ok.inj read
      exact Nat.mod_eq_of_lt holds
  | negated n text =>
      rw [toBaseUnits_minus_chars fits text] at read
      split_ifs at read
      obtain rfl := Except.ok.inj read
      have below : -n.value * 10 ^ t.decimals.toNat ≤ 0 :=
        mul_nonpos_of_nonpos_of_nonneg (neg_nonpos.mpr n.value_nonneg) (by positivity)
      rw [Nat.floor_of_nonpos below]
      rfl

theorem toBaseUnits_mono (fits : t.decimals.toNat ≤ maxDecimals) {low high : String} {v w : ℚ}
    (spellsLow : Spells low v) (spellsHigh : Spells high w) (le : v ≤ w) {a b : Word}
    (readLow : t.toBaseUnits low = .ok a) (readHigh : t.toBaseUnits high = .ok b) : a ≤ b := by
  rw [BitVec.le_def, toNat_of_spells fits spellsLow readLow,
    toNat_of_spells fits spellsHigh readHigh]
  apply Nat.floor_mono
  gcongr

theorem exists_toBaseUnits_of_le (fits : t.decimals.toNat ≤ maxDecimals) {low high : String}
    {n m : Numeral} (textLow : Text.trimChars low.toList = n.chars)
    (textHigh : Text.trimChars high.toList = m.chars) (le : n.value ≤ m.value) {b : Word}
    (readHigh : t.toBaseUnits high = .ok b) : ∃ a ≤ b, t.toBaseUnits low = .ok a := by
  have holds : m.units t.decimals.toNat < 2 ^ 256 := by
    by_contra tooLarge
    rw [toBaseUnits_chars fits textHigh, if_neg tooLarge] at readHigh
    contradiction
  have readLow := toBaseUnits_chars fits textLow
  rw [if_pos (lt_of_le_of_lt (Numeral.units_mono le _) holds)] at readLow
  exact ⟨_, toBaseUnits_mono fits (.plain n textLow) (.plain m textHigh) le readLow readHigh,
    readLow⟩

theorem convertsExactly (t : Token) (fits : t.decimals.toNat ≤ maxDecimals) :
    t.ConvertsExactly where
  plain _ _ text := toBaseUnits_chars fits text
  negated _ _ text := toBaseUnits_minus_chars fits text
  monotone _ _ _ _ low high le _ _ readLow readHigh :=
    toBaseUnits_mono fits low high le readLow readHigh
  holdsBelow _ _ _ _ low high le _ readHigh := exists_toBaseUnits_of_le fits low high le readHigh

theorem convertsExactly_at_eight_decimals :
    let t : Token := ⟨"BTC", .ofNat 1, 8, 56⟩
    t.decimals.toNat ≤ maxDecimals ∧ t.ConvertsExactly ∧
      t.toBaseUnits " 0.123456789" = .ok 12345678 ∧ t.toBaseUnits "-0.000000001" = .ok 0 := by
  intro t
  have exact := convertsExactly t (by decide)
  let cut : Numeral := ⟨[0], some [1, 2, 3, 4, 5, 6, 7, 8, 9]⟩
  let lost : Numeral := ⟨[0], some [0, 0, 0, 0, 0, 0, 0, 0, 1]⟩
  have units : cut.units t.decimals.toNat = 12345678 := by
    rw [Numeral.units_eq]
    decide +kernel
  have nothing : lost.units t.decimals.toNat = 0 := by
    rw [Numeral.units_eq]
    decide +kernel
  refine ⟨by decide, exact, ?_, ?_⟩
  · rw [exact.plain " 0.123456789" cut (by decide), units, if_pos (by norm_num)]
    rfl
  · rw [exact.negated "-0.000000001" lost (by decide), if_pos ⟨nothing, by decide⟩]

end Token

end SwapDesk
