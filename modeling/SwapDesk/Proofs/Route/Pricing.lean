import SwapDesk.Route.Router

namespace SwapDesk

/-- A candidate path with the answer to its sub-call; none is a sub-call that reverted. -/
structure Answered where
  path : TradePath
  answer : Option Bytes

namespace Answered

def zip (paths : List TradePath) (answers : List (Option Bytes)) : List Answered :=
  List.zipWith Answered.mk paths answers

@[simp] theorem zip_cons (path : TradePath) (paths : List TradePath)
    (answer : Option Bytes) (answers : List (Option Bytes)) :
    zip (path :: paths) (answer :: answers) = ⟨path, answer⟩ :: zip paths answers := rfl

theorem map_path_zip {paths : List TradePath} {answers : List (Option Bytes)}
    (counted : paths.length = answers.length) :
    (zip paths answers).map path = paths := by
  induction paths generalizing answers with
  | nil => rfl
  | cons path paths ih =>
      cases answers with
      | nil => simp at counted
      | cons answer answers =>
          rw [zip_cons, List.map_cons, ih (by simpa using counted)]

def amounts? (c : Answered) : Option (List Word) :=
  c.answer.bind decodeAmounts?

/-- The answer decodes, but not to one amount for each token of the path. -/
def Miscounted (c : Answered) : Prop :=
  ∃ amounts, c.amounts? = some amounts ∧ amounts.length ≠ c.path.length + 1

instance : DecidablePred Miscounted := fun c =>
  match decoded : c.amounts? with
  | none => isFalse fun ⟨amounts, found, _⟩ => by simp [decoded] at found
  | some amounts =>
      decidable_of_iff (amounts.length ≠ c.path.length + 1)
        ⟨fun count => ⟨amounts, decoded, count⟩, fun ⟨others, found, count⟩ => by
          cases decoded.symm.trans found
          exact count⟩

/-- The price that the answer gives: the amounts at both ends, neither of them zero. -/
def price? (c : Answered) : Option Priced := do
  let amounts ← c.amounts?
  let amountIn ← amounts.head?
  let amountOut ← amounts.getLast?
  if amountIn = 0 ∨ amountOut = 0 then none else some ⟨c.path, amountIn, amountOut⟩

theorem price?_eq_some_iff {c : Answered} {p : Priced} :
    c.price? = some p ↔
      ∃ amounts, c.amounts? = some amounts ∧ amounts.head? = some p.amountIn ∧
        amounts.getLast? = some p.amountOut ∧ p.amountIn ≠ 0 ∧ p.amountOut ≠ 0 ∧
        c.path = p.path := by
  simp only [price?, Option.bind_eq_bind, Option.bind_eq_some_iff]
  constructor
  · rintro ⟨amounts, decoded, amountIn, first, amountOut, last, priced⟩
    split at priced
    · contradiction
    · rename_i positive
      cases priced
      exact ⟨amounts, decoded, first, last, fun zero => positive (.inl zero),
        fun zero => positive (.inr zero), rfl⟩
  · rintro ⟨amounts, decoded, first, last, positiveIn, positiveOut, samePath⟩
    refine ⟨amounts, decoded, p.amountIn, first, p.amountOut, last, ?_⟩
    rw [if_neg (not_or.mpr ⟨positiveIn, positiveOut⟩), samePath]

theorem path_of_price? {c : Answered} {p : Priced} (priced : c.price? = some p) :
    c.path = p.path := by
  obtain ⟨_, _, _, _, _, _, samePath⟩ := price?_eq_some_iff.mp priced
  exact samePath

end Answered

namespace TradeRouter

theorem appraise_of_miscounted {c : Answered} (miscounted : c.Miscounted) :
    ∃ fault, appraise c.path c.answer = .error fault := by
  obtain ⟨path, answer⟩ := c
  obtain ⟨amounts, decoded, count⟩ := miscounted
  cases answer with
  | none => simp [Answered.amounts?] at decoded
  | some data =>
      have amountsOf : decodeAmounts? data = some amounts := decoded
      exact ⟨.incomparable path.platform amounts.length (path.length + 1), by
        simp [appraise, endAmounts, amountsOf, count]⟩

theorem appraise_of_not_miscounted {c : Answered} (fits : ¬ c.Miscounted) :
    appraise c.path c.answer = .ok c.price? := by
  obtain ⟨path, answer⟩ := c
  cases answer with
  | none => rfl
  | some data =>
      cases decoded : decodeAmounts? data with
      | none => simp [appraise, endAmounts, Answered.price?, Answered.amounts?, decoded]
      | some amounts =>
          have count : amounts.length = path.length + 1 :=
            Decidable.byContradiction fun different => fits ⟨amounts, decoded, different⟩
          cases amounts with
          | nil => simp at count
          | cons first rest =>
              have priced : Answered.price? ⟨path, some data⟩ =
                  if first = 0 ∨ rest.getLastD first = 0 then none
                  else some ⟨path, first, rest.getLastD first⟩ := by
                simp [Answered.price?, Answered.amounts?, decoded, List.getLast?_cons,
                  List.getLastD_eq_getLast?]
              simp only [appraise, endAmounts, decoded, count, if_true, List.headD_cons,
                List.getLastD_cons, priced]
              split <;> rfl

theorem appraiseAll_of_miscounted {paths : List TradePath} {answers : List (Option Bytes)}
    (miscounted : ∃ c ∈ Answered.zip paths answers, c.Miscounted) :
    ∃ fault, appraiseAll paths answers = .error fault := by
  induction paths generalizing answers with
  | nil => simp [Answered.zip] at miscounted
  | cons path paths ih =>
      cases answers with
      | nil => simp [Answered.zip] at miscounted
      | cons answer answers =>
          by_cases here : Answered.Miscounted ⟨path, answer⟩
          · obtain ⟨fault, stops⟩ := appraise_of_miscounted here
            exact ⟨fault, by simp only [appraiseAll, stops]; rfl⟩
          · have goesOn := appraise_of_not_miscounted here
            obtain ⟨c, member, count⟩ := miscounted
            rw [Answered.zip_cons, List.mem_cons] at member
            rcases member with rfl | later
            · exact absurd count here
            · obtain ⟨fault, stops⟩ := ih ⟨c, later, count⟩
              exact ⟨fault, by simp only [appraiseAll, goesOn, stops]; rfl⟩

theorem appraiseAll_of_fitting {paths : List TradePath} {answers : List (Option Bytes)}
    (fits : ∀ c ∈ Answered.zip paths answers, ¬ c.Miscounted) :
    appraiseAll paths answers =
      .ok ((Answered.zip paths answers).filterMap Answered.price?) := by
  induction paths generalizing answers with
  | nil => rfl
  | cons path paths ih =>
      cases answers with
      | nil => rfl
      | cons answer answers =>
          rw [Answered.zip_cons] at fits ⊢
          have goesOn := appraise_of_not_miscounted (fits ⟨path, answer⟩ (by simp))
          have rest := ih fun c member => fits c (List.mem_cons_of_mem _ member)
          simp only [appraiseAll, goesOn, rest, List.filterMap_cons]
          cases Answered.price? ⟨path, answer⟩ <;> rfl

end TradeRouter

end SwapDesk
