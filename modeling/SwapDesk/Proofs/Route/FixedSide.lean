import SwapDesk.Proofs.Route.CallData
import SwapDesk.Proofs.Route.Optimality

namespace SwapDesk

def fixedEnd? : Direction → List Word → Option Word
  | .exactIn, amounts => amounts.head?
  | .exactOut, amounts => amounts.getLast?

def Answered.Echoes (c : Answered) (req : RouteRequest) : Prop :=
  ∀ amounts, c.amounts? = some amounts → fixedEnd? req.direction amounts = some req.amount

theorem Answered.fixedEnd?_of_price? {c : Answered} {quote : Quote} (direction : Direction)
    (priced : c.price? = some quote.priced) :
    ∃ amounts, c.amounts? = some amounts ∧
      fixedEnd? direction amounts = some (SwapCall.fixedAmount quote direction) := by
  obtain ⟨amounts, decoded, first, last, _⟩ := Answered.price?_eq_some_iff.mp priced
  refine ⟨amounts, decoded, ?_⟩
  cases direction with
  | exactIn => exact first
  | exactOut => exact last

theorem Answered.echoes_iff {c : Answered} {req : RouteRequest} {amounts : List Word}
    {fixed : Word} (decoded : c.amounts? = some amounts)
    (given : fixedEnd? req.direction amounts = some fixed) :
    c.Echoes req ↔ fixed = req.amount := by
  constructor
  · intro echoes
    exact Option.some.inj (given.symm.trans (echoes amounts decoded))
  · rintro rfl others found
    cases decoded.symm.trans found
    exact given

namespace TradeRouter

variable {r : TradeRouter} {req : RouteRequest}

theorem decode?_subCall {path : TradePath} {call : SubCall}
    (encoded : r.subCall req path = .ok call) :
    QuoteCall.decode? call.data = some (req.direction, req.amount, path.tokens) := by
  rw [(subCall_eq_ok_iff.mp encoded).2]
  exact QuoteCall.decode?_ofPath path req.amount req.direction

theorem decode?_subCalls {plan : Plan} (planned : r.plan req = .ok plan) :
    List.Forall₂ (fun path (call : SubCall) => QuoteCall.decode? call.data =
      some (req.direction, req.amount, path.tokens)) plan.paths plan.subCalls := by
  obtain ⟨_, _, _, _, made⟩ := planned_of_plan planned
  exact made.encoded.imp fun _ _ => decode?_subCall

theorem Reads.winner {plan : Plan} {block : UInt64} {answers : List (Option Bytes)}
    {quote : Quote} (reads : r.Reads req plan block answers)
    (routed : (r.route req).result = .ok quote) :
    ∃ c ∈ Answered.zip plan.paths answers, c.price? = some quote.priced := by
  have concluded := reads.concluded
  rw [routed] at concluded
  cases concluded with
  | priced _ _ _ best => exact best.exists_price

/-- All candidates are asked about the requested amount. The fixed side of the quote, which is
also what its swap moves, is the amount that the winning answer gives for that side, and so it is
the requested amount exactly when that answer repeats it. -/
theorem fixedAmount_of_route {quote : Quote}
    (routed : (r.route req).result = .ok quote) :
    ∃ plan block answers, r.Reads req plan block answers ∧
      List.Forall₂ (fun path (call : SubCall) => QuoteCall.decode? call.data =
        some (req.direction, req.amount, path.tokens)) plan.paths plan.subCalls ∧
      (∃ c ∈ Answered.zip plan.paths answers, c.price? = some quote.priced ∧
        (∃ amounts, c.amounts? = some amounts ∧ fixedEnd? req.direction amounts =
          some (SwapCall.fixedAmount quote req.direction)) ∧
        (SwapCall.fixedAmount quote req.direction = req.amount ↔ c.Echoes req)) ∧
      ((∀ c ∈ Answered.zip plan.paths answers, c.Echoes req) →
        SwapCall.fixedAmount quote req.direction = req.amount) ∧
      ∀ platform router terms call, terms.direction = req.direction →
        SwapCall.build? platform router quote terms = some call →
        ∃ arguments, SwapCall.Arguments.decode? call.calldata = some arguments ∧
          arguments.fixed = SwapCall.fixedAmount quote req.direction := by
  obtain ⟨plan, block, answers, reads⟩ := reads_of_route_ok routed
  obtain ⟨c, member, priced⟩ := reads.winner routed
  obtain ⟨amounts, decoded, given⟩ := Answered.fixedEnd?_of_price? req.direction priced
  have echoes := Answered.echoes_iff decoded given
  refine ⟨plan, block, answers, reads, decode?_subCalls reads.planned,
    ⟨c, member, priced, ⟨amounts, decoded, given⟩, echoes.symm⟩, ?_, ?_⟩
  · intro allEcho
    exact echoes.mp (allEcho c member)
  · intro platform router terms call sameDirection built
    obtain ⟨bound, _, read⟩ := SwapCall.decode?_of_build? built
    exact ⟨_, read, congrArg (SwapCall.fixedAmount quote) sameDirection⟩

theorem fixedAmount_of_route_market :
    ∃ quote, ((Sample.market [Sample.reverted, Sample.priced [10, 30],
        Sample.reverted]).route Sample.request).result = .ok quote ∧
      ∃ c : Answered, c.price? = some quote.priced ∧ c.Echoes Sample.request := by
  let quote : Quote := ⟨Sample.direct, 10, 30, 7⟩
  have routed : ((Sample.market [Sample.reverted, Sample.priced [10, 30],
      Sample.reverted]).route Sample.request).result = .ok quote := by
    decide +kernel
  obtain ⟨_, _, _, _, _, ⟨c, _, priced, _, echoes⟩, _⟩ := fixedAmount_of_route routed
  have repeated : SwapCall.fixedAmount quote Sample.request.direction = Sample.request.amount := rfl
  exact ⟨quote, routed, c, priced, echoes.mp repeated⟩

/-- An answer that gives another amount for the fixed side becomes the quote all the same. -/
theorem fixedAmount_ne_amount :
    ¬ ∀ (r : TradeRouter) (req : RouteRequest) (quote : Quote),
      (r.route req).result = .ok quote →
      SwapCall.fixedAmount quote req.direction = req.amount := by
  intro always
  have fixed := always (Sample.market [Sample.reverted, Sample.priced [5, 30], Sample.reverted])
    Sample.request ⟨Sample.direct, 5, 30, 7⟩ (by decide +kernel)
  exact absurd fixed (by decide)

end TradeRouter

end SwapDesk
