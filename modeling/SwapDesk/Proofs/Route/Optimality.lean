import SwapDesk.Proofs.Route.Ranking
import SwapDesk.Proofs.Route.Reading

/-!
Which quote a request gets, and when it gets none. Once the answers are there, one that does not
fit its path makes the run fail, whatever the others are; without such an answer the quote is the
first of the best prices, and there is no quote only if there is no price.
-/

namespace SwapDesk

def Quote.priced (q : Quote) : Priced :=
  ⟨q.path, q.amountIn, q.amountOut⟩

theorem Quote.ext_priced {q q' : Quote} (priced : q.priced = q'.priced)
    (block : q.block = q'.block) : q = q' := by
  cases q
  cases q'
  simp_all [Quote.priced]

/-- A candidate has the price `winner`. No price ranks ahead of it, and none that stands before it
ranks as high. -/
def FirstBest (direction : Direction) (candidates : List Answered) (winner : Priced) : Prop :=
  ∃ before c after, candidates = before ++ c :: after ∧ c.price? = some winner ∧
    (∀ b ∈ before, ∀ p, b.price? = some p → winner.rank direction < p.rank direction) ∧
    (∀ a ∈ after, ∀ p, a.price? = some p → winner.rank direction ≤ p.rank direction)

theorem firstBest_of_best? {direction : Direction} {candidates : List Answered}
    {winner : Priced}
    (best : Priced.best? direction (candidates.filterMap Answered.price?) = some winner) :
    FirstBest direction candidates winner := by
  obtain ⟨ahead, behind, prices, strictly, least⟩ := Priced.best?_eq_some_iff.mp best
  obtain ⟨front, rest, rfl, rfl, restPrices⟩ := List.filterMap_eq_append_iff.mp prices
  obtain ⟨unpriced, c, after, rfl, nothing, priced, rfl⟩ :=
    List.filterMap_eq_cons_iff.mp restPrices
  refine ⟨front ++ unpriced, c, after, by simp, priced, ?_, ?_⟩
  · intro b member p price
    rcases List.mem_append.mp member with earlier | between
    · exact strictly p (List.mem_filterMap.mpr ⟨b, earlier, price⟩)
    · simp [nothing b between] at price
  · intro a later p price
    exact least p (List.mem_filterMap.mpr ⟨a, later, price⟩)

theorem FirstBest.best? {direction : Direction} {candidates : List Answered} {winner : Priced}
    (best : FirstBest direction candidates winner) :
    Priced.best? direction (candidates.filterMap Answered.price?) = some winner := by
  obtain ⟨before, c, after, rfl, priced, ahead, least⟩ := best
  refine Priced.best?_eq_some_iff.mpr ⟨before.filterMap Answered.price?,
    after.filterMap Answered.price?, ?_, ?_, ?_⟩
  · rw [List.filterMap_append, List.filterMap_cons_some priced]
  · intro p earlier
    obtain ⟨b, member, price⟩ := List.mem_filterMap.mp earlier
    exact ahead b member p price
  · intro p later
    obtain ⟨a, member, price⟩ := List.mem_filterMap.mp later
    exact least a member p price

theorem FirstBest.rank_le {direction : Direction} {candidates : List Answered}
    {winner : Priced} (best : FirstBest direction candidates winner) {c : Answered}
    (member : c ∈ candidates) {p : Priced} (priced : c.price? = some p) :
    winner.rank direction ≤ p.rank direction :=
  Priced.rank_le_of_best? best.best? (List.mem_filterMap.mpr ⟨c, member, priced⟩)

theorem FirstBest.exists_price {direction : Direction} {candidates : List Answered}
    {winner : Priced} (best : FirstBest direction candidates winner) :
    ∃ c ∈ candidates, c.price? = some winner :=
  List.mem_filterMap.mp (Priced.mem_of_best? best.best?)

namespace TradeRouter

inductive Concluded (req : RouteRequest) (candidates : List Answered) (block : UInt64) :
    Except Failure Quote → Prop
  | incomparable (reason : String) (miscounted : ∃ c ∈ candidates, c.Miscounted) :
      Concluded req candidates block (.error (.incomparableQuotes req.uid reason))
  | unpriced (fits : ∀ c ∈ candidates, ¬ c.Miscounted)
      (nothing : ∀ c ∈ candidates, c.price? = none) :
      Concluded req candidates block (.error (noPath req))
  | priced (quote : Quote) (fits : ∀ c ∈ candidates, ¬ c.Miscounted)
      (sameBlock : quote.block = block)
      (best : FirstBest req.direction candidates quote.priced) :
      Concluded req candidates block (.ok quote)

section Concluded

variable {req : RouteRequest} {block : UInt64} {candidates : List Answered}
  {result : Except Failure Quote}

def Incomparable (result : Except Failure Quote) : Prop :=
  ∃ uid reason, result = .error (.incomparableQuotes uid reason)

namespace Concluded

theorem incomparable_iff (concluded : Concluded req candidates block result) :
    Incomparable result ↔ ∃ c ∈ candidates, c.Miscounted := by
  cases concluded with
  | incomparable reason miscounted => exact ⟨fun _ => miscounted, fun _ => ⟨_, _, rfl⟩⟩
  | unpriced fits nothing =>
      refine ⟨?_, fun ⟨c, member, count⟩ => absurd count (fits c member)⟩
      rintro ⟨uid, reason, failed⟩
      exact nomatch failed
  | priced quote fits sameBlock best =>
      refine ⟨?_, fun ⟨c, member, count⟩ => absurd count (fits c member)⟩
      rintro ⟨uid, reason, failed⟩
      exact nomatch failed

theorem toOption_priced (concluded : Concluded req candidates block result)
    (comparable : ¬ Incomparable result) :
    result.toOption.map Quote.priced =
      Priced.best? req.direction (candidates.filterMap Answered.price?) := by
  cases concluded with
  | incomparable reason miscounted => exact absurd ⟨_, _, rfl⟩ comparable
  | unpriced fits nothing =>
      rw [List.filterMap_eq_nil_iff.mpr nothing]
      rfl
  | priced quote fits sameBlock best => exact best.best?.symm

theorem block_eq {quote : Quote} (concluded : Concluded req candidates block (.ok quote)) :
    quote.block = block := by
  cases concluded with
  | priced _ _ sameBlock _ => exact sameBlock

end Concluded

end Concluded

theorem concluded_conclude (req : RouteRequest) (paths : List TradePath) (block : UInt64)
    (answers : List (Option Bytes)) :
    Concluded req (Answered.zip paths answers) block (conclude req paths block answers) := by
  by_cases miscounted : ∃ c ∈ Answered.zip paths answers, c.Miscounted
  · obtain ⟨fault, stops⟩ := appraiseAll_of_miscounted miscounted
    simp only [conclude, stops]
    exact .incomparable fault.message miscounted
  · have fits : ∀ c ∈ Answered.zip paths answers, ¬ c.Miscounted :=
      fun c member count => miscounted ⟨c, member, count⟩
    cases best : Priced.best? req.direction
        ((Answered.zip paths answers).filterMap Answered.price?) with
    | none =>
        simp only [conclude, appraiseAll_of_fitting fits, best]
        exact .unpriced fits (List.filterMap_eq_nil_iff.mp (Priced.best?_eq_none.mp best))
    | some winner =>
        simp only [conclude, appraiseAll_of_fitting fits, best]
        exact .priced _ fits rfl (firstBest_of_best? best)

theorem Reads.concluded {r : TradeRouter} {req : RouteRequest} {plan : Plan} {block : UInt64}
    {answers : List (Option Bytes)} (reads : r.Reads req plan block answers) :
    Concluded req (Answered.zip plan.paths answers) block (r.route req).result := by
  rw [reads.route_result]
  exact concluded_conclude req plan.paths block answers

theorem Reads.block_eq {r : TradeRouter} {req : RouteRequest} {plan : Plan} {block : UInt64}
    {answers : List (Option Bytes)} {quote : Quote} (reads : r.Reads req plan block answers)
    (routed : (r.route req).result = .ok quote) : quote.block = block := by
  have concluded := reads.concluded
  rw [routed] at concluded
  exact concluded.block_eq

/-- What becomes of a request whose candidates have been answered: incomparable quotes exactly
when some answer does not fit its path; otherwise no path exactly when no answer gives a price;
otherwise the first of the best prices, which no direct pool beats. -/
theorem route_outcome {r : TradeRouter} {req : RouteRequest} {plan : Plan} {block : UInt64}
    {answers : List (Option Bytes)} (reads : r.Reads req plan block answers) :
    let candidates := Answered.zip plan.paths answers
    candidates.map Answered.path = plan.paths ∧
    ((∃ uid reason, (r.route req).result = .error (.incomparableQuotes uid reason)) ↔
      ∃ c ∈ candidates, c.Miscounted) ∧
    ((∀ c ∈ candidates, ¬ c.Miscounted) →
      ((∃ uid tokenIn tokenOut amount, (r.route req).result =
          .error (.noProfitablePath uid tokenIn tokenOut amount)) ↔
        ∀ c ∈ candidates, c.price? = none) ∧
      ((∃ c ∈ candidates, c.price? ≠ none) →
        ∃ quote, (r.route req).result = .ok quote ∧ quote.block = block ∧
          FirstBest req.direction candidates quote.priced ∧
          ∀ c ∈ candidates, c.path.length = 1 → ∀ p, c.price? = some p →
            quote.priced.cost req.direction ≤ p.cost req.direction)) := by
  intro candidates
  refine ⟨reads.zip_paths, ?_⟩
  have concluded : Concluded req candidates block (r.route req).result := reads.concluded
  generalize (r.route req).result = result at concluded
  cases concluded with
  | incomparable reason miscounted =>
      refine ⟨⟨fun _ => miscounted, fun _ => ⟨req.uid, reason, rfl⟩⟩, ?_⟩
      intro fits
      obtain ⟨c, member, count⟩ := miscounted
      exact absurd count (fits c member)
  | unpriced fits nothing =>
      refine ⟨⟨?_, ?_⟩, fun _ => ⟨⟨fun _ => nothing, fun _ => ⟨_, _, _, _, rfl⟩⟩, ?_⟩⟩
      · rintro ⟨uid, reason, failed⟩
        exact nomatch failed
      · rintro ⟨c, member, count⟩
        exact absurd count (fits c member)
      · rintro ⟨c, member, price⟩
        exact absurd (nothing c member) price
  | priced quote fits sameBlock best =>
      refine ⟨⟨?_, ?_⟩, fun _ => ⟨⟨?_, ?_⟩, fun _ => ⟨quote, rfl, sameBlock, best, ?_⟩⟩⟩
      · rintro ⟨uid, reason, failed⟩
        exact nomatch failed
      · rintro ⟨c, member, count⟩
        exact absurd count (fits c member)
      · rintro ⟨uid, tokenIn, tokenOut, amount, failed⟩
        exact nomatch failed
      · intro nothing
        obtain ⟨c, member, price⟩ := best.exists_price
        exact absurd (nothing c member) (by simp [price])
      · intro c member _ p price
        exact Priced.cost_le_of_rank_le (best.rank_le member price)

/-- Two paths with the same output: the shorter one is the quote, though it is listed later. -/
theorem route_outcome_market :
    ∃ answers, (Sample.market [Sample.priced [10, 20, 30], Sample.priced [10, 30],
        Sample.reverted]).Reads Sample.request Sample.plan 7 answers ∧
      ∃ quote, ((Sample.market [Sample.priced [10, 20, 30], Sample.priced [10, 30],
          Sample.reverted]).route Sample.request).result = .ok quote ∧
        FirstBest .exactIn (Answered.zip Sample.plan.paths answers) quote.priced := by
  let answers := [some (encodeAmounts [10, 20, 30]), some (encodeAmounts [10, 30]), none]
  have reads : (Sample.market [Sample.priced [10, 20, 30], Sample.priced [10, 30],
      Sample.reverted]).Reads Sample.request Sample.plan 7 answers :=
    ⟨Sample.planned _, rfl, by decide +kernel⟩
  obtain ⟨_, _, decided⟩ := route_outcome reads
  obtain ⟨_, succeeds⟩ := decided (by decide +kernel)
  obtain ⟨quote, quoted, _, best, _⟩ := succeeds (by decide +kernel)
  exact ⟨answers, reads, quote, quoted, best⟩

end TradeRouter

end SwapDesk
