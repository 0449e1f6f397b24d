import SwapDesk.Proofs.Route.SlippageBound

namespace SwapDesk.Slippage

def OutputFits (amountOut : Word) (bps : UInt64) : Prop :=
  amountOut.toNat * (denominator - min bps.toNat denominator) < 2 ^ 256

def InputFits (amountIn : Word) (bps : UInt64) : Prop :=
  amountIn.toNat * (denominator + bps.toNat) < 2 ^ 256

variable {amount low high bound : Word} {factor least greatest : Nat}

theorem scale_mono (amounts : low ≤ high) (factors : least ≤ greatest)
    (inside : high.toNat * greatest < 2 ^ 256) : scale low least ≤ scale high greatest := by
  have products : low.toNat * least ≤ high.toNat * greatest := Nat.mul_le_mul amounts factors
  rw [BitVec.le_def, scale_exact (Nat.lt_of_le_of_lt products inside), scale_exact inside]
  exact Nat.div_le_div_right products

theorem scale_denominator (inside : amount.toNat * denominator < 2 ^ 256) :
    scale amount denominator = amount := by
  apply BitVec.eq_of_toNat_eq
  rw [scale_exact inside, Nat.mul_div_cancel _ (by decide)]

theorem le_scale (enlarges : denominator ≤ factor) (inside : amount.toNat * factor < 2 ^ 256) :
    amount ≤ scale amount factor := by
  have products : amount.toNat * denominator ≤ amount.toNat * factor :=
    Nat.mul_le_mul_left _ enlarges
  calc amount
      = scale amount denominator := (scale_denominator (Nat.lt_of_le_of_lt products inside)).symm
    _ ≤ scale amount factor := scale_mono (Nat.le_refl _) enlarges inside

theorem scale_le (reduces : factor ≤ denominator) : scale amount factor ≤ amount := by
  rw [BitVec.le_def, toNat_scale]
  calc amount.toNat * factor % 2 ^ 256 / denominator
      ≤ amount.toNat * factor / denominator := Nat.div_le_div_right (Nat.mod_le _ _)
    _ ≤ amount.toNat * denominator / denominator :=
      Nat.div_le_div_right (Nat.mul_le_mul_left _ reduces)
    _ = amount.toNat := Nat.mul_div_cancel _ (by decide)

/-- How the least output stands to the exact one, to the quoted output, and to other ones. -/
structure OutputLaws : Prop where
  exact_iff : ∀ amount bps,
    (minOut amount bps).toNat = leastOutput amount bps ↔ OutputFits amount bps
  short : ∀ amount bps, ¬ OutputFits amount bps →
    (minOut amount bps).toNat < leastOutput amount bps
  le : ∀ amount bps, minOut amount bps ≤ amount
  mono : ∀ low high bps, low ≤ high → OutputFits high bps → minOut low bps ≤ minOut high bps
  anti : ∀ amount bps more, bps ≤ more → OutputFits amount bps →
    minOut amount more ≤ minOut amount bps

theorem outputLaws : OutputLaws where
  exact_iff amount bps := scale_exact_iff amount _
  short amount bps outside := scale_lt_of_overflow (Nat.le_of_not_lt outside)
  le amount bps := scale_le (Nat.sub_le _ _)
  mono low high bps amounts inside := scale_mono amounts (Nat.le_refl _) inside
  anti amount bps more allowances inside := by
    have allowances : bps.toNat ≤ more.toNat := UInt64.le_iff_toNat_le.mp allowances
    exact scale_mono (Nat.le_refl _) (by omega) inside

variable {bps : UInt64}

theorem maxIn?_eq_some_iff :
    maxIn? amount bps = some bound ↔
      denominator + bps.toNat < 2 ^ 64 ∧ bound = scale amount (denominator + bps.toNat) := by
  unfold maxIn?
  split
  · rename_i added
    simp only [Option.some.injEq, added, true_and, eq_comm]
  · rename_i tooLarge
    simp only [reduceCtorEq, tooLarge, false_and]

/-- How the greatest input stands to the exact one, to the quoted input, and to other ones. There is
none when the allowance is too large to be added up. -/
structure InputLaws : Prop where
  none_iff : ∀ amount bps, maxIn? amount bps = none ↔ 2 ^ 64 - 1 - denominator < bps.toNat
  exact_iff : ∀ amount bps bound, maxIn? amount bps = some bound →
    (bound.toNat = greatestInput amount bps ↔ InputFits amount bps)
  short : ∀ amount bps bound, maxIn? amount bps = some bound → ¬ InputFits amount bps →
    bound.toNat < greatestInput amount bps
  le : ∀ amount bps bound, maxIn? amount bps = some bound → InputFits amount bps → amount ≤ bound
  mono : ∀ low high bps more, low ≤ high → bps ≤ more → InputFits high more →
    ∀ least greatest, maxIn? low bps = some least → maxIn? high more = some greatest →
      least ≤ greatest

theorem inputLaws : InputLaws where
  none_iff amount bps := by
    have room : denominator ≤ 2 ^ 64 - 1 := by decide
    unfold maxIn?
    split
    · simp only [reduceCtorEq, false_iff]
      omega
    · simp only [true_iff]
      omega
  exact_iff amount bps bound computed := by
    obtain ⟨-, rfl⟩ := maxIn?_eq_some_iff.mp computed
    exact scale_exact_iff amount _
  short amount bps bound computed outside := by
    obtain ⟨-, rfl⟩ := maxIn?_eq_some_iff.mp computed
    exact scale_lt_of_overflow (Nat.le_of_not_lt outside)
  le amount bps bound computed inside := by
    obtain ⟨-, rfl⟩ := maxIn?_eq_some_iff.mp computed
    exact le_scale (Nat.le_add_right _ _) inside
  mono low high bps more amounts allowances inside least greatest computed computed' := by
    obtain ⟨-, rfl⟩ := maxIn?_eq_some_iff.mp computed
    obtain ⟨-, rfl⟩ := maxIn?_eq_some_iff.mp computed'
    have allowances : bps.toNat ≤ more.toNat := UInt64.le_iff_toNat_le.mp allowances
    exact scale_mono amounts (Nat.add_le_add_left allowances _) inside

/-- Both bounds are exact just where the product fits a word, and too small elsewhere. Inside that
range they are ordered like the exact ones, and with nothing allowed either of them is the amount. -/
theorem exact_where_product_fits :
    OutputLaws ∧ InputLaws ∧
      ∀ amount, OutputFits amount 0 →
        ∃ bound, maxIn? amount 0 = some bound ∧ minOut bound 0 = amount := by
  refine ⟨outputLaws, inputLaws, ?_⟩
  intro amount inside
  have nothing : denominator - min (0 : UInt64).toNat denominator = denominator := by decide
  have added : denominator + (0 : UInt64).toNat = denominator := by decide
  rw [OutputFits, nothing] at inside
  refine ⟨amount, maxIn?_eq_some_iff.mpr ⟨by decide, ?_⟩, ?_⟩
  · rw [added, scale_denominator inside]
  · rw [minOut, nothing, scale_denominator inside]

theorem exact_where_product_fits_edges :
    let half : Word := .ofNat 256 (2 ^ 255)
    OutputFits 1000 0 ∧ (∃ bound, maxIn? 1000 0 = some bound ∧ minOut bound 0 = 1000) ∧
      ¬ OutputFits half 50 ∧ (minOut half 50).toNat < leastOutput half 50 := by
  intro half
  have inside : OutputFits 1000 0 := by
    unfold OutputFits
    decide
  have outside : ¬ OutputFits half 50 := by
    unfold OutputFits
    decide
  obtain ⟨output, -, unchanged⟩ := exact_where_product_fits
  exact ⟨inside, unchanged 1000 inside, outside, output.short half 50 outside⟩

end SwapDesk.Slippage
