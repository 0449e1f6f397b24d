import Mathlib.Tactic.ByContra
import SwapDesk.Proofs.Route.CallData

namespace SwapDesk

namespace Slippage

theorem toNat_scale (amount : Word) (factor : Nat) :
    (scale amount factor).toNat = amount.toNat * factor % 2 ^ 256 / denominator := by
  have small : denominator % 2 ^ 256 = denominator := rfl
  simp only [scale, BitVec.toNat_udiv, BitVec.toNat_mul, BitVec.toNat_ofNat, small,
    Nat.mul_mod_mod]

theorem scale_exact {amount : Word} {factor : Nat}
    (inside : amount.toNat * factor < 2 ^ 256) :
    (scale amount factor).toNat = amount.toNat * factor / denominator := by
  rw [toNat_scale, Nat.mod_eq_of_lt inside]

theorem scale_lt_of_overflow {amount : Word} {factor : Nat}
    (outside : 2 ^ 256 ≤ amount.toNat * factor) :
    (scale amount factor).toNat < amount.toNat * factor / denominator := by
  rw [toNat_scale]
  generalize amount.toNat * factor = product at outside
  have wrapped : product % 2 ^ 256 + denominator ≤ product := by
    have split := Nat.mod_add_div product (2 ^ 256)
    have once : 1 ≤ product / 2 ^ 256 := Nat.div_pos outside (by decide)
    have step : 2 ^ 256 * 1 ≤ 2 ^ 256 * (product / 2 ^ 256) := Nat.mul_le_mul_left _ once
    have room : denominator ≤ 2 ^ 256 := by decide
    omega
  calc product % 2 ^ 256 / denominator
      < product % 2 ^ 256 / denominator + 1 := Nat.lt_succ_self _
    _ = (product % 2 ^ 256 + denominator) / denominator :=
      (Nat.add_div_right _ (by decide)).symm
    _ ≤ product / denominator := Nat.div_le_div_right wrapped

theorem scale_exact_iff (amount : Word) (factor : Nat) :
    (scale amount factor).toNat = amount.toNat * factor / denominator ↔
      amount.toNat * factor < 2 ^ 256 := by
  constructor
  · intro exact
    by_contra outside
    have less := scale_lt_of_overflow (Nat.le_of_not_lt outside)
    omega
  · exact scale_exact

def leastOutput (amountOut : Word) (bps : UInt64) : Nat :=
  amountOut.toNat * (denominator - min bps.toNat denominator) / denominator

def greatestInput (amountIn : Word) (bps : UInt64) : Nat :=
  amountIn.toNat * (denominator + bps.toNat) / denominator

theorem leastOutput_le (amountOut : Word) (bps : UInt64) :
    leastOutput amountOut bps ≤ amountOut.toNat := by
  apply Nat.div_le_of_le_mul
  rw [Nat.mul_comm denominator]
  exact Nat.mul_le_mul_left _ (Nat.sub_le _ _)

theorem le_greatestInput (amountIn : Word) (bps : UInt64) :
    amountIn.toNat ≤ greatestInput amountIn bps := by
  apply (Nat.le_div_iff_mul_le (by decide)).mpr
  exact Nat.mul_le_mul_left _ (Nat.le_add_right _ _)

theorem greatestInput_lt_iff (amountIn : Word) (bps : UInt64) :
    greatestInput amountIn bps < 2 ^ 256 ↔
      amountIn.toNat * (denominator + bps.toNat) < denominator * 2 ^ 256 := by
  rw [greatestInput, Nat.div_lt_iff_lt_mul (by decide), Nat.mul_comm (2 ^ 256)]

end Slippage

namespace SwapCall

open Slippage

/-- The bound is the exact one; one that no word can hold is replaced by any that does not cut
into the quoted input. -/
def Protects (quote : Quote) (terms : SwapTerms) (bound : Word) : Prop :=
  match terms.direction with
  | .exactIn => bound.toNat = leastOutput quote.amountOut terms.slippageBps
  | .exactOut =>
      if greatestInput quote.amountIn terms.slippageBps < 2 ^ 256 then
        bound.toNat = greatestInput quote.amountIn terms.slippageBps
      else quote.amountIn.toNat ≤ bound.toNat

/-- The products stay inside their words. For a given output there is one more case: the exact
bound fits no word, and what is left of the product happens to be large enough. -/
def Fits (quote : Quote) (terms : SwapTerms) : Prop :=
  match terms.direction with
  | .exactIn =>
      quote.amountOut.toNat * (denominator - min terms.slippageBps.toNat denominator) < 2 ^ 256
  | .exactOut =>
      let product := quote.amountIn.toNat * (denominator + terms.slippageBps.toNat)
      denominator + terms.slippageBps.toNat < 2 ^ 64 ∧
        (product < 2 ^ 256 ∨ denominator * 2 ^ 256 ≤ product ∧
          quote.amountIn.toNat ≤ product % 2 ^ 256 / denominator)

instance (quote : Quote) (terms : SwapTerms) : Decidable (Fits quote terms) := by
  unfold Fits
  cases terms.direction <;> infer_instance

theorem exists_bound_iff_fits (quote : Quote) (terms : SwapTerms) :
    (∃ bound, bound? quote terms.direction terms.slippageBps = some bound ∧
      Protects quote terms bound) ↔ Fits quote terms := by
  obtain ⟨direction, bps, recipient, deadline⟩ := terms
  cases direction with
  | exactIn =>
      simp only [bound?, Protects, Fits, Option.some.injEq, exists_eq_left']
      exact scale_exact_iff quote.amountOut (denominator - min bps.toNat denominator)
  | exactOut =>
      simp only [bound?, Protects, Fits, maxIn?]
      by_cases factor : denominator + bps.toNat < 2 ^ 64
      · simp only [factor, if_true, Option.some.injEq, exists_eq_left', true_and]
        rcases Nat.lt_or_ge (quote.amountIn.toNat * (denominator + bps.toNat)) (2 ^ 256)
          with inside | outside
        · have representable : greatestInput quote.amountIn bps < 2 ^ 256 :=
            Nat.lt_of_le_of_lt (Nat.div_le_self _ _) inside
          simp only [representable, if_true, inside, true_or, iff_true]
          exact scale_exact inside
        · have wrapped : ¬ quote.amountIn.toNat * (denominator + bps.toNat) < 2 ^ 256 :=
            Nat.not_lt.mpr outside
          -- The wrapped bound misses the exact one, so it protects only where no word holds that.
          by_cases representable : greatestInput quote.amountIn bps < 2 ^ 256
          · have between := Nat.not_le.mpr ((greatestInput_lt_iff _ _).mp representable)
            have short := Nat.ne_of_lt (scale_lt_of_overflow outside)
            simp only [representable, if_true, wrapped, between, false_and, or_false, iff_false]
            exact short
          · have beyond : denominator * 2 ^ 256 ≤
                quote.amountIn.toNat * (denominator + bps.toNat) :=
              Nat.le_of_not_lt (mt (greatestInput_lt_iff _ _).mpr representable)
            simp only [representable, if_false, wrapped, beyond, true_and, false_or,
              toNat_scale]
      · simp only [factor, if_false, reduceCtorEq, false_and, exists_false]

/-- The call of a swap exists and its bound protects the trader exactly when the products stay
inside their words, and a bound that protects never gives away more than the quote. -/
theorem protects_iff_fits (platform : Platform) (router : Address) (quote : Quote)
    (terms : SwapTerms) :
    ((∃ call arguments, build? platform router quote terms = some call ∧
        Arguments.decode? call.calldata = some arguments ∧
        Protects quote terms arguments.bound) ↔ Fits quote terms) ∧
      ∀ bound, Protects quote terms bound →
        match terms.direction with
        | .exactIn => bound.toNat ≤ quote.amountOut.toNat
        | .exactOut => quote.amountIn.toNat ≤ bound.toNat := by
  constructor
  · rw [← exists_bound_iff_fits]
    constructor
    · rintro ⟨call, arguments, built, decoded, protect⟩
      obtain ⟨bound, computed, read⟩ := decode?_of_build? built
      cases decoded.symm.trans read
      exact ⟨bound, computed, protect⟩
    · rintro ⟨bound, computed, protect⟩
      obtain ⟨call, built, read⟩ := build?_of_bound? platform router computed
      exact ⟨call, _, built, read, protect⟩
  · intro bound protect
    obtain ⟨direction, bps, recipient, deadline⟩ := terms
    cases direction with
    | exactIn =>
        have exact : bound.toNat = leastOutput quote.amountOut bps := protect
        rw [exact]
        exact leastOutput_le quote.amountOut bps
    | exactOut =>
        simp only [Protects] at protect
        split at protect
        · rw [protect]
          exact le_greatestInput quote.amountIn bps
        · exact protect

/-- A trader who accepts no loss on an output of `2 ^ 255` gets the bound zero: ten thousand times
the output is a multiple of `2 ^ 256`. -/
theorem not_protects_of_huge_output :
    ¬ ∀ (platform : Platform) (router : Address) (quote : Quote) (terms : SwapTerms),
      ∃ call arguments, build? platform router quote terms = some call ∧
        Arguments.decode? call.calldata = some arguments ∧
        Protects quote terms arguments.bound := by
  intro always
  let hop : Hop := ⟨.pancake, .ofNat 80, .ofNat 1, .ofNat 2⟩
  let quote : Quote := ⟨.direct hop, 10, BitVec.ofNat 256 (2 ^ 255), 7⟩
  let terms : SwapTerms := ⟨.exactIn, 0, .ofNat 9, 1700000000⟩
  obtain ⟨call, arguments, built, decoded, protect⟩ := always .pancake (.ofNat 101) quote terms
  obtain ⟨bound, computed, read⟩ := decode?_of_build? built
  cases decoded.symm.trans read
  have fits := (exists_bound_iff_fits quote terms).mp ⟨bound, computed, protect⟩
  exact absurd fits (by decide)

end SwapCall

end SwapDesk
