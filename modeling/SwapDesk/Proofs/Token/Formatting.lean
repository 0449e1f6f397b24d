import SwapDesk.Proofs.Text.Trimming
import SwapDesk.Proofs.Token.Conversion

namespace SwapDesk

namespace Units

theorem exists_digits_decimalDigits (n : ℕ) :
    ∃ ds, Text.decimalDigits n = digits ds ∧ worth ds = n := by
  induction n using Text.decimalDigits.induct with
  | case1 n small =>
      refine ⟨[⟨n, small⟩], ?_, ?_⟩
      · rw [Text.decimalDigits, if_pos small]
        rfl
      · simp [worth_cons]
  | case2 n large ih =>
      obtain ⟨ds, written, worth_ds⟩ := ih
      have last : n % 10 < 10 := Nat.mod_lt n (by decide)
      refine ⟨ds ++ [⟨n % 10, last⟩], ?_, ?_⟩
      · rw [Text.decimalDigits, if_neg large, written, digits_append]
        rfl
      · rw [worth_append, worth_ds, worth_cons, worth_nil]
        simp only [List.length_singleton, List.length_nil]
        omega

theorem length_decimalDigits_le {n places : ℕ} (small : n < 10 ^ places) :
    (Text.decimalDigits n).length ≤ max places 1 := by
  induction n using Text.decimalDigits.induct generalizing places with
  | case1 n single =>
      rw [Text.decimalDigits, if_pos single]
      exact Nat.le_max_right places 1
  | case2 n large ih =>
      cases places with
      | zero => omega
      | succ places =>
          have shorter : n / 10 < 10 ^ places := by
            rw [Nat.pow_succ] at small
            omega
          have one_le : 1 ≤ places := by
            by_contra none_left
            obtain rfl : places = 0 := by omega
            omega
          have length_le := ih shorter
          rw [Text.decimalDigits, if_neg large, List.length_append, List.length_singleton]
          omega

theorem digits_zeros (k : ℕ) : digits (List.replicate k 0) = List.replicate k '0' := by
  rw [digits, List.map_replicate]
  rfl

theorem worth_zeros_append (k : ℕ) (ds : List (Fin 10)) :
    worth (List.replicate k 0 ++ ds) = worth ds := by
  induction k with
  | zero => rfl
  | succ k ih =>
      rw [List.replicate_succ, List.cons_append, worth_cons, ih]
      simp

theorem exists_numeral_format (decimals : ℕ) (w : Word) :
    ∃ n : Numeral, format decimals w = n.chars ∧ n.value = (w.toNat : ℚ) / 10 ^ decimals := by
  obtain ⟨whole, whole_written, worth_whole⟩ :=
    exists_digits_decimalDigits (w.toNat / 10 ^ decimals)
  obtain ⟨places, places_written, worth_places⟩ :=
    exists_digits_decimalDigits (w.toNat % 10 ^ decimals)
  have size : places.length ≤ max decimals 1 := by
    have below : w.toNat % 10 ^ decimals < 10 ^ decimals := Nat.mod_lt w.toNat (by positivity)
    have length_le := length_decimalDigits_le below
    rwa [places_written, digits, List.length_map] at length_le
  let padded := List.replicate (decimals - places.length) 0 ++ places
  refine ⟨⟨whole, some padded⟩, ?_, ?_⟩
  · simp only [format, whole_written, places_written, Numeral.chars, padded, digits_append,
      digits_zeros]
    rw [digits, digits, List.length_map]
  · have length_padded : padded.length = max decimals places.length := by
      simp only [padded, List.length_append, List.length_replicate]
      omega
    rw [Numeral.value, Numeral.fraction, Option.getD_some, length_padded, worth_zeros_append,
      worth_whole, worth_places]
    rcases Nat.eq_zero_or_pos decimals with rfl | positive
    · simp [Nat.mod_one]
    · have whole_and_rest : (w.toNat : ℚ) =
          10 ^ decimals * (w.toNat / 10 ^ decimals : ℕ) + (w.toNat % 10 ^ decimals : ℕ) := by
        exact_mod_cast (Nat.div_add_mod w.toNat (10 ^ decimals)).symm
      rw [Nat.max_eq_left (by omega), whole_and_rest]
      field_simp

theorem isBlank_digitChar (d : Fin 10) : Text.isBlank (Text.digitChar d) = false := by
  revert d
  decide

theorem isBlank_of_mem_digits {ds : List (Fin 10)} {c : Char} (member : c ∈ digits ds) :
    Text.isBlank c = false := by
  obtain ⟨d, -, rfl⟩ := List.mem_map.mp member
  exact isBlank_digitChar d

theorem Numeral.trimChars_chars (n : Numeral) : Text.trimChars n.chars = n.chars := by
  apply Text.trimWhile_eq_self
  intro c member
  rcases List.mem_append.mp member with inWhole | inPlaces
  · exact isBlank_of_mem_digits inWhole
  · cases places : n.places with
    | none => simp [places] at inPlaces
    | some ds =>
        rw [places] at inPlaces
        rcases List.mem_cons.mp inPlaces with rfl | inDigits
        · rfl
        · exact isBlank_of_mem_digits inDigits

end Units

namespace Token

open SwapDesk.Units

variable {t : Token}

theorem exists_numeral_formatUnits (fits : t.decimals.toNat ≤ maxDecimals) (w : Word) :
    ∃ n : Numeral, Text.trimChars (t.formatUnits w).toList = n.chars ∧
      n.value = (w.toNat : ℚ) / 10 ^ t.decimals.toNat := by
  obtain ⟨n, written, value⟩ := exists_numeral_format t.decimals.toNat w
  refine ⟨n, ?_, value⟩
  rw [formatUnits, if_neg (Nat.not_lt.mpr fits), String.toList_ofList, written, n.trimChars_chars]

theorem toBaseUnits_formatUnits (fits : t.decimals.toNat ≤ maxDecimals) (w : Word) :
    t.toBaseUnits (t.formatUnits w) = .ok w := by
  obtain ⟨n, text, value⟩ := exists_numeral_formatUnits fits w
  have scale : (10 : ℚ) ^ t.decimals.toNat ≠ 0 := by positivity
  have units : n.units t.decimals.toNat = w.toNat := by
    rw [Numeral.units, value, div_mul_cancel₀ _ scale, Nat.floor_natCast]
  rw [toBaseUnits_chars fits text, units, if_pos w.isLt, BitVec.ofNat_toNat, BitVec.setWidth_eq]

theorem formatUnits_of_no_decimals (none : t.decimals = 0) (w : Word) :
    t.formatUnits w = w.decimal ++ ".0" := by
  have zero : Text.decimalDigits 0 = ['0'] := by
    rw [Text.decimalDigits, if_pos (by decide)]
    rfl
  have written : format t.decimals.toNat w = Text.decimalDigits w.toNat ++ ['.', '0'] := by
    simp [format, none, Nat.mod_one, zero]
  rw [formatUnits, if_neg (by simp [none]), written, String.ofList_append]
  rfl

/-- An amount is written as the number of tokens it is worth, and what is written reads back as the
amount, up to the largest one. So no two amounts look alike. -/
theorem formatUnits_reads_back (fits : t.decimals.toNat ≤ maxDecimals) :
    (∀ w, t.toBaseUnits (t.formatUnits w) = .ok w) ∧
      (∀ w, Spells (t.formatUnits w) ((w.toNat : ℚ) / 10 ^ t.decimals.toNat)) ∧
      Function.Injective t.formatUnits ∧
      (t.decimals = 0 → ∀ w, t.formatUnits w = w.decimal ++ ".0") := by
  refine ⟨toBaseUnits_formatUnits fits, ?_, ?_, formatUnits_of_no_decimals⟩
  · intro w
    obtain ⟨n, text, value⟩ := exists_numeral_formatUnits fits w
    rw [← value]
    exact .plain n text
  · intro a b same
    have read := toBaseUnits_formatUnits fits a
    rw [same, toBaseUnits_formatUnits fits b] at read
    exact (Except.ok.inj read).symm

theorem formatUnits_reads_back_largest :
    let t : Token := ⟨"BTC", .ofNat 1, 77, 56⟩
    t.decimals.toNat ≤ maxDecimals ∧
      t.toBaseUnits
        "1.15792089237316195423570985008687907853269984665640564039457584007913129639935" =
          .ok (BitVec.allOnes 256) := by
  intro t
  have fits : t.decimals.toNat ≤ maxDecimals := by decide
  have written : t.formatUnits (BitVec.allOnes 256) =
      "1.15792089237316195423570985008687907853269984665640564039457584007913129639935" := by
    decide +kernel
  refine ⟨fits, ?_⟩
  rw [← written]
  exact (formatUnits_reads_back fits).1 (BitVec.allOnes 256)

end Token

end SwapDesk
