import SwapDesk.Proofs.Token.Cutting

namespace SwapDesk

namespace Units

def isFigure (c : Char) : Bool :=
  c.isDigit || c == '_'

def unsigned (cs : List Char) : List Char :=
  if cs.head? = some '-' then cs.drop 1 else cs

/-- An amount as people write it: figures, one point among them at most, and possibly a minus sign in
front. -/
structure WellFormed (cs : List Char) : Prop where
  figures : ∀ c ∈ unsigned cs, c = '.' ∨ isFigure c = true
  points : (unsigned cs).count '.' ≤ 1

theorem wellFormed_iff {cs : List Char} :
    WellFormed cs ↔ ∀ c ∈ (unsigned cs).erase '.', isFigure c = true := by
  constructor
  · rintro ⟨figures, points⟩ c member
    refine (figures c (List.mem_of_mem_erase member)).resolve_left ?_
    rintro rfl
    have twice := List.count_pos_iff.mpr member
    rw [List.count_erase_self] at twice
    omega
  · intro figures
    constructor
    · intro c member
      by_cases point : c = '.'
      · exact .inl point
      · exact .inr (figures c ((List.mem_erase_of_ne point).mpr member))
    · have absent : '.' ∉ (unsigned cs).erase '.' := fun member => nomatch figures '.' member
      have none_left := List.count_eq_zero.mpr absent
      rw [List.count_erase_self] at none_left
      omega

theorem isFigure_of_digitValue? {c : Char} {d : ℕ} (digit : digitValue? c = some d)
    (single : d < 10) : isFigure c = true := by
  unfold digitValue? Text.digitValue? at digit
  split_ifs at digit with small capital figure
  · obtain rfl := Option.some.inj digit
    omega
  · obtain rfl := Option.some.inj digit
    omega
  · have isDigit : c.isDigit = true := by
      simpa [Char.isDigit, Char.le_def] using figure
    rw [isFigure, isDigit, Bool.true_or]

theorem isFigure_of_magnitudeFrom? {acc m : ℕ} {cs : List Char}
    (read : magnitudeFrom? acc cs = some m) : ∀ c ∈ cs, isFigure c = true := by
  induction cs generalizing acc with
  | nil => simp
  | cons c cs ih =>
      rw [magnitudeFrom?] at read
      split at read
      · rename_i separator
        exact List.forall_mem_cons.mpr ⟨by simp [isFigure, separator], ih read⟩
      · obtain ⟨d, digit, rest⟩ := Option.bind_eq_some_iff.mp read
        split at rest
        · rename_i single
          exact List.forall_mem_cons.mpr ⟨isFigure_of_digitValue? digit single.1, ih rest⟩
        · contradiction

theorem isFigure_of_readUnsigned {digits : List Char} {missing : ℕ} {w : Word}
    (read : readUnsigned digits missing = .amount w) : ∀ c ∈ digits, isFigure c = true := by
  unfold readUnsigned at read
  split at read
  · contradiction
  · rename_i m magnitude
    exact isFigure_of_magnitudeFrom? magnitude

theorem isFigure_of_readSigned {digits : List Char} {missing : ℕ} {w : Word}
    (read : readSigned digits missing = .amount w) : ∀ c ∈ digits, isFigure c = true := by
  unfold readSigned at read
  split at read
  · rename_i empty
    simp [List.isEmpty_iff.mp empty]
  · split at read
    · contradiction
    · rename_i m magnitude
      exact isFigure_of_magnitudeFrom? magnitude

theorem erase_unsigned (cs : List Char) :
    (unsigned cs).erase '.' =
      if cs.head? = some '-' then (cs.erase '.').drop 1 else cs.erase '.' := by
  unfold unsigned
  split
  · rename_i minus
    cases cs with
    | nil => rfl
    | cons c cs =>
        obtain rfl := Option.some.inj minus
        rfl
  · rfl

namespace Cut

variable {decimals : ℕ} {cs kept lost : List Char}

theorem wellFormed_iff (cut : Cut decimals cs kept lost) :
    WellFormed cs ↔ WellFormed kept ∧ ∀ c ∈ lost, isFigure c = true := by
  have rest : (unsigned cs).erase '.' = (unsigned kept).erase '.' ++ lost := by
    rw [erase_unsigned, erase_unsigned, cut.head?_eq, cut.erase_eq]
    split
    · rename_i minus
      cases kept with
      | nil => exact nomatch minus
      | cons c kept =>
          obtain rfl := Option.some.inj minus
          rfl
    · rfl
  rw [Units.wellFormed_iff, Units.wellFormed_iff, rest, List.forall_mem_append]

theorem wellFormed_of_amount (cut : Cut decimals cs kept lost) {w : Word}
    (read : read decimals cs = .amount w) : WellFormed kept := by
  rw [Units.wellFormed_iff, erase_unsigned]
  rw [Units.read, cut.align?_eq_some, cut.head?_eq] at read
  split at read
  · contradiction
  · simp only at read
    split at read
    · rename_i minus
      rw [if_pos minus]
      exact isFigure_of_readSigned read
    · rename_i plain
      rw [if_neg plain]
      exact isFigure_of_readUnsigned read

end Cut

theorem readSigned_ne_torn (digits : List Char) (missing : ℕ) :
    readSigned digits missing ≠ .torn := by
  unfold readSigned
  split_ifs
  · exact nofun
  · split
    · exact nofun
    · split_ifs <;> exact nofun

theorem readUnsigned_ne_torn (digits : List Char) (missing : ℕ) :
    readUnsigned digits missing ≠ .torn := by
  unfold readUnsigned
  split
  · exact nofun
  · split_ifs <;> exact nofun

theorem read_eq_torn_iff {decimals : ℕ} (fits : decimals ≤ maxDecimals) {cs : List Char} :
    read decimals cs = .torn ↔ ¬ ∃ kept lost, Cut decimals cs kept lost := by
  rw [← align?_eq_none_iff, read, if_neg (Nat.not_lt.mpr fits)]
  cases aligned : align? decimals cs with
  | none => simp
  | some parts =>
      simp only [reduceCtorEq, iff_false]
      split
      · exact readSigned_ne_torn _ _
      · exact readUnsigned_ne_torn _ _

end Units

namespace Token

open SwapDesk.Units

/-- The outcomes that a text should have: an amount, if it is written like one, or a failure that
names the amount. -/
inductive Judged (t : Token) (human : String) : Prop
  | amount (w : Word) (read : t.toBaseUnits human = .ok w)
      (wellFormed : WellFormed (Text.trimChars human.toList))
  | refused (fault : AmountFault) (failed : t.toBaseUnits human = .error (.failed (.amount fault)))
      (field : fault.field = "amount")

variable {t : Token} {human : String}

theorem toBaseUnits_eq_ok_iff {w : Word} :
    t.toBaseUnits human = .ok w ↔
      read t.decimals.toNat (Text.trimChars human.toList) = .amount w := by
  unfold toBaseUnits
  split <;> simp_all

theorem toBaseUnits_eq_crashed_iff :
    t.toBaseUnits human = .error .crashed ↔
      read t.decimals.toNat (Text.trimChars human.toList) = .torn := by
  unfold toBaseUnits
  split <;> simp_all

theorem judged_iff :
    t.Judged human ↔ t.toBaseUnits human ≠ .error .crashed ∧
      ∀ w, t.toBaseUnits human = .ok w → WellFormed (Text.trimChars human.toList) := by
  constructor
  · intro judged
    cases judged with
    | amount w read wellFormed => exact ⟨by simp [read], fun _ _ => wellFormed⟩
    | refused fault failed field => simp [failed]
  · rintro ⟨whole, wellFormed⟩
    cases outcome : read t.decimals.toNat (Text.trimChars human.toList) with
    | amount w =>
        have read := toBaseUnits_eq_ok_iff.mpr outcome
        exact .amount w read (wellFormed w read)
    | negative => exact .refused (.negative human) (by rw [toBaseUnits, outcome]) rfl
    | malformed => exact .refused (.malformed human t.symbol) (by rw [toBaseUnits, outcome]) rfl
    | torn => exact absurd (toBaseUnits_eq_crashed_iff.mpr outcome) whole

/-- A text is judged well exactly when its surplus ends with whole characters, and they are figures
or the rest is no amount anyway. If the surplus ends within a character, there is a crash; otherwise
the part that is kept decides, and it is well formed wherever there is an amount. -/
theorem judged_iff_cut (fits : t.decimals.toNat ≤ maxDecimals) :
    let cs := Text.trimChars human.toList
    (t.Judged human ↔ ∃ kept lost, Cut t.decimals.toNat cs kept lost ∧
      ((∃ w, read t.decimals.toNat kept = .amount w) → ∀ c ∈ lost, isFigure c = true)) ∧
    (t.toBaseUnits human = .error .crashed ↔
      ¬ ∃ kept lost, Cut t.decimals.toNat cs kept lost) ∧
    ∀ kept lost, Cut t.decimals.toNat cs kept lost → ∀ w, t.toBaseUnits human = .ok w →
      read t.decimals.toNat kept = .amount w ∧ WellFormed kept := by
  intro cs
  have crashed : t.toBaseUnits human = .error .crashed ↔
      ¬ ∃ kept lost, Cut t.decimals.toNat cs kept lost :=
    toBaseUnits_eq_crashed_iff.trans (read_eq_torn_iff fits)
  refine ⟨?_, crashed, ?_⟩
  · rw [judged_iff, ne_eq, crashed, not_not]
    constructor
    · rintro ⟨⟨kept, lost, cut⟩, wellFormed⟩
      refine ⟨kept, lost, cut, ?_⟩
      rintro ⟨w, read⟩
      have whole := wellFormed w (toBaseUnits_eq_ok_iff.mpr (cut.read_eq.trans read))
      exact (cut.wellFormed_iff.mp whole).2
    · rintro ⟨kept, lost, cut, figures⟩
      refine ⟨⟨kept, lost, cut⟩, ?_⟩
      intro w read
      have amount := toBaseUnits_eq_ok_iff.mp read
      exact cut.wellFormed_iff.mpr
        ⟨cut.wellFormed_of_amount amount, figures ⟨w, cut.read_eq.symm.trans amount⟩⟩
  · intro kept lost cut w read
    have amount := toBaseUnits_eq_ok_iff.mp read
    exact ⟨cut.read_eq.symm.trans amount, cut.wellFormed_of_amount amount⟩

theorem judged_iff_cut_surplus_figures :
    let t : Token := ⟨"BTC", .ofNat 1, 1, 56⟩
    t.decimals.toNat ≤ maxDecimals ∧ t.Judged " -0.02_5" := by
  intro t
  have fits : t.decimals.toNat ≤ maxDecimals := by decide
  have cut : Cut t.decimals.toNat (Text.trimChars " -0.02_5".toList) ['-', '0', '.', '0']
      ['2', '_', '5'] := ⟨by decide, by decide⟩
  have figures : ∀ c ∈ ['2', '_', '5'], isFigure c = true := by simp [isFigure]
  exact ⟨fits, (judged_iff_cut fits).1.mpr ⟨_, _, cut, fun _ => figures⟩⟩

/-- A surplus of letters is dropped in silence, and a surplus that ends within a digit of another
script crashes. -/
theorem not_judged_of_surplus :
    let t : Token := ⟨"BTC", .ofNat 1, 1, 56⟩
    t.decimals.toNat ≤ maxDecimals ∧
      t.toBaseUnits "1.5abc" = .ok 15 ∧ ¬ t.Judged "1.5abc" ∧
      t.toBaseUnits "1.٠" = .error .crashed ∧ ¬ t.Judged "1.٠" := by
  intro t
  have accepted : t.toBaseUnits "1.5abc" = .ok 15 := by decide +kernel
  have crashed : t.toBaseUnits "1.٠" = .error .crashed := by decide +kernel
  refine ⟨by decide, accepted, ?_, crashed, ?_⟩
  · intro judged
    have wellFormed := (judged_iff.mp judged).2 15 accepted
    exact absurd (wellFormed.figures 'a' (by decide)) (by decide)
  · intro judged
    exact (judged_iff.mp judged).1 crashed

end Token

end SwapDesk
