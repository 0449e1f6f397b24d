import SwapDesk.Proofs.Json.Members
import SwapDesk.Proofs.Route.SlippageBound
import SwapDesk.Proofs.Route.Traffic
import SwapDesk.Proofs.Text.Numerals

namespace SwapDesk

structure SwapRecord where
  platform : Platform
  tokens : List Address
  pools : List Address
  amountIn : Word
  amountOut : Word
  bound : Word
  direction : Direction
  deadline : UInt64
  quoteBlock : UInt64
deriving DecidableEq

namespace SwapRecord

def platform? : Json → Option Platform
  | .string s => Platform.ofName? s
  | _ => none

def address? : Json → Option Address
  | .string s => Address.ofText? s
  | _ => none

def addresses? : Json → Option (List Address)
  | .array items => items.mapM address?
  | _ => none

def word? : Json → Option Word
  | .string s => Word.ofDecimal? s
  | _ => none

def direction? : Json → Option Direction
  | .bool reverse => some (.ofReverse reverse)
  | _ => none

def uint64? : Json → Option UInt64
  | .int (.ofNat n) => if n < 2 ^ 64 then some (UInt64.ofNat n) else none
  | _ => none

def ofContext? (context : Json) : Option SwapRecord := do
  let platform ← (context.get? "platform").bind platform?
  let tokens ← (context.get? "path").bind addresses?
  let pools ← (context.get? "pools").bind addresses?
  let amountIn ← (context.get? "amountIn").bind word?
  let amountOut ← (context.get? "amountOut").bind word?
  let bound ← (context.get? "bound").bind word?
  let direction ← (context.get? "reverse").bind direction?
  let deadline ← (context.get? "deadline").bind uint64?
  let quoteBlock ← (context.get? "quoteBlock").bind uint64?
  return ⟨platform, tokens, pools, amountIn, amountOut, bound, direction, deadline, quoteBlock⟩

theorem platform?_name (p : Platform) : platform? (.string p.name) = some p := by
  cases p <;> decide

theorem addresses?_strings (addresses : List Address) :
    addresses? (.strings (addresses.map Address.text)) = some addresses := by
  induction addresses with
  | nil => rfl
  | cons a addresses ih =>
      simp only [addresses?, Json.strings, List.map_map] at ih ⊢
      rw [List.map_cons, List.mapM_cons, ih]
      simp [address?, Address.ofText?_text]

theorem word?_decimal (w : Word) : word? (.string w.decimal) = some w :=
  Word.ofDecimal?_decimal w

theorem direction?_reverse (direction : Direction) :
    direction? (.bool (direction == .exactOut)) = some direction := by
  cases direction <;> rfl

theorem uint64?_nat (n : UInt64) : uint64? (.nat n.toNat) = some n := by
  simp [uint64?, Json.nat, n.toNat_lt]

theorem ofContext?_context (platform : Platform) (quote : Quote) (terms : SwapTerms)
    (bound : Word) :
    ofContext? (SwapCall.context platform quote terms bound) =
      some ⟨platform, quote.path.tokens, quote.path.hops.map Hop.pool, quote.amountIn,
        quote.amountOut, bound, terms.direction, terms.deadline, quote.block⟩ := by
  have pools : (quote.path.hops.map fun hop => hop.pool.text) =
      (quote.path.hops.map Hop.pool).map Address.text := by
    rw [List.map_map]
    rfl
  simp only [ofContext?, SwapCall.context, pools, Json.get?_ofMembers]
  -- Left as a map, the pools would be fused with the map to their texts by `simp`.
  generalize quote.path.hops.map Hop.pool = pools
  simp [platform?_name, addresses?_strings, word?_decimal, direction?_reverse, uint64?_nat]

end SwapRecord

namespace SwapCall

open Slippage

def WithinWords (quote : Quote) (terms : SwapTerms) : Prop :=
  match terms.direction with
  | .exactIn =>
      quote.amountOut.toNat * (denominator - min terms.slippageBps.toNat denominator) < 2 ^ 256
  | .exactOut =>
      denominator + terms.slippageBps.toNat < 2 ^ 64 ∧
        quote.amountIn.toNat * (denominator + terms.slippageBps.toNat) < 2 ^ 256

instance (quote : Quote) : (terms : SwapTerms) → Decidable (WithinWords quote terms)
  | ⟨.exactIn, _, _, _⟩ => Nat.decLt _ _
  | ⟨.exactOut, _, _, _⟩ => instDecidableAnd

def exactBound (quote : Quote) (terms : SwapTerms) : Nat :=
  match terms.direction with
  | .exactIn => leastOutput quote.amountOut terms.slippageBps
  | .exactOut => greatestInput quote.amountIn terms.slippageBps

/-- The call swaps as the quote says: it spends the quoted input for no less than the bound, or
pays no more than the bound for the quoted output. -/
structure CarriesOut (quote : Quote) (terms : SwapTerms) (bound : Word) (call : PreparedCall) :
    Prop where
  arguments : Arguments.decode? call.calldata = some
    { direction := terms.direction
      fixed := match terms.direction with
        | .exactIn => quote.amountIn
        | .exactOut => quote.amountOut
      bound := bound
      tokens := quote.path.tokens
      recipient := terms.recipient
      deadline := BitVec.ofNat 256 terms.deadline.toNat }
  selector : call.calldata.take 4 = match terms.direction with
    | .exactIn => [0x38, 0xed, 0x17, 0x39]
    | .exactOut => [0x88, 0x03, 0xdb, 0xee]
  func : call.func = match terms.direction with
    | .exactIn => "swapExactTokensForTokens"
    | .exactOut => "swapTokensForExactTokens"
  exact : bound.toNat = exactBound quote terms

theorem exists_bound {quote : Quote} {terms : SwapTerms} (within : WithinWords quote terms) :
    ∃ bound, bound? quote terms.direction terms.slippageBps = some bound ∧
      bound.toNat = exactBound quote terms := by
  obtain ⟨direction, bps, recipient, deadline⟩ := terms
  cases direction with
  | exactIn => exact ⟨_, rfl, scale_exact within⟩
  | exactOut =>
      obtain ⟨factor, inside⟩ := within
      exact ⟨_, if_pos factor, scale_exact inside⟩

theorem exists_call {quote : Quote} {terms : SwapTerms} (within : WithinWords quote terms)
    (platform : Platform) (router : Address) :
    ∃ call bound, build? platform router quote terms = some call ∧ call.target = router ∧
      CarriesOut quote terms bound call ∧
      call.context = context platform quote terms bound := by
  obtain ⟨bound, computed, exact⟩ := exists_bound within
  refine ⟨_, bound, by rw [build?, computed, Option.map_some], rfl, ?_, rfl⟩
  obtain ⟨direction, bps, recipient, deadline⟩ := terms
  cases direction with
  | exactIn => exact ⟨Arguments.decode?_encode _ quote.path.length_tokens_lt, rfl, rfl, exact⟩
  | exactOut => exact ⟨Arguments.decode?_encode _ quote.path.length_tokens_lt, rfl, rfl, exact⟩

end SwapCall

theorem Answered.exists_index {paths : List TradePath} {answers : List (Option Bytes)}
    {c : Answered} (member : c ∈ Answered.zip paths answers) :
    ∃ i : Nat, paths[i]? = some c.path ∧ answers[i]? = some c.answer := by
  obtain ⟨i, here⟩ := List.mem_iff_getElem?.mp member
  rw [Answered.zip, List.getElem?_zipWith] at here
  cases atPath : paths[i]? with
  | none => simp [atPath] at here
  | some path =>
      cases atAnswer : answers[i]? with
      | none => simp [atAnswer] at here
      | some answer =>
          simp only [atPath, atAnswer, Option.some.injEq] at here
          subst here
          exact ⟨i, atPath, atAnswer⟩

namespace TradeRouter

variable {r : TradeRouter} {req : RouteRequest} {quote : Quote}

def Won (r : TradeRouter) (req : RouteRequest) (quote : Quote) (asked : SubCall) : Prop :=
  ∃ (plan : Plan) (block : UInt64) (answers : List (Option Bytes)) (i : Nat)
    (answer : Option Bytes), r.Reads req plan block answers ∧
    plan.paths[i]? = some quote.path ∧ plan.subCalls[i]? = some asked ∧
    answers[i]? = some answer ∧ Answered.price? ⟨quote.path, answer⟩ = some quote.priced

theorem exists_won (routed : (r.route req).result = .ok quote) :
    ∃ asked, r.Won req quote asked ∧ r.subCall req quote.path = .ok asked := by
  obtain ⟨plan, block, answers, reads⟩ := reads_of_route_ok routed
  obtain ⟨_, _, _, _, made⟩ := planned_of_plan reads.planned
  obtain ⟨⟨path, answer⟩, member, priced⟩ := reads.winner routed
  cases Answered.path_of_price? priced
  obtain ⟨i, atPath, atAnswer⟩ := Answered.exists_index member
  obtain ⟨asked, atCall, encoded⟩ := Checked.exists_getElem? made.encoded atPath
  exact ⟨asked, ⟨plan, block, answers, i, answer, reads, atPath, atCall, atAnswer, priced⟩, encoded⟩

end TradeRouter

/-- As long as the bound fits its words, the call of a swap says what the quote, the terms and the
bound say, and so does the context that is kept with it. The swap of a routed quote goes to the
router that gave the winning price, over the tokens that it was asked about. -/
theorem SwapCall.matches_quote :
    (∀ (platform : Platform) (router : Address) (quote : Quote) (terms : SwapTerms),
      WithinWords quote terms →
      ∃ call bound, build? platform router quote terms = some call ∧ call.target = router ∧
        CarriesOut quote terms bound call ∧
        SwapRecord.ofContext? call.context = some
          { platform := platform
            tokens := quote.path.tokens
            pools := quote.path.hops.map Hop.pool
            amountIn := quote.amountIn
            amountOut := quote.amountOut
            bound := bound
            direction := terms.direction
            deadline := terms.deadline
            quoteBlock := quote.block }) ∧
    ∀ (r : TradeRouter) (req : RouteRequest) (quote : Quote),
      (r.route req).result = .ok quote →
      ∃ router asked, r.routers.get? quote.path.platform = some router ∧
        r.Won req quote asked ∧
        QuoteCall.decode? asked.data = some (req.direction, req.amount, quote.path.tokens) ∧
        ∀ terms call, build? quote.path.platform router quote terms = some call →
          call.target = asked.target ∧
          ∃ arguments, Arguments.decode? call.calldata = some arguments ∧
            arguments.tokens = quote.path.tokens := by
  constructor
  · intro platform router quote terms within
    obtain ⟨call, bound, built, target, carriesOut, kept⟩ := exists_call within platform router
    refine ⟨call, bound, built, target, carriesOut, ?_⟩
    rw [kept]
    exact SwapRecord.ofContext?_context platform quote terms bound
  · intro r req quote routed
    obtain ⟨asked, won, encoded⟩ := TradeRouter.exists_won routed
    have router := (TradeRouter.subCall_eq_ok_iff.mp encoded).1
    refine ⟨asked.target, asked, router, won, TradeRouter.decode?_subCall encoded, ?_⟩
    intro terms call built
    obtain ⟨bound, computed, decoded⟩ := decode?_of_build? built
    obtain ⟨_, _, rfl⟩ := Option.map_eq_some_iff.mp built
    exact ⟨rfl, _, decoded, rfl⟩

/-- The swap of a path over two pools, half a percent below its quote. -/
theorem SwapCall.matches_quote_market :
    let quote : Quote := ⟨Sample.overThird, 10, 4000, 7⟩
    let terms : SwapTerms := ⟨.exactIn, 50, .ofNat 9, 1700000000⟩
    let market := Sample.market
      [Sample.priced [10, 20, 4000], Sample.priced [10, 3000], Sample.reverted]
    (∃ call bound, build? .pancake (.ofNat 101) quote terms = some call ∧
      CarriesOut quote terms bound call ∧ bound = 3980) ∧
    ∃ asked, market.Won Sample.request quote asked ∧
      QuoteCall.decode? asked.data = some (.exactIn, 10, [.ofNat 1, .ofNat 3, .ofNat 2]) := by
  intro quote terms market
  obtain ⟨fits, goesTo⟩ := SwapCall.matches_quote
  have within : WithinWords quote terms := by decide
  have routed : (market.route Sample.request).result = .ok quote := by decide +kernel
  obtain ⟨call, bound, built, _, carriesOut, _⟩ := fits .pancake (.ofNat 101) quote terms within
  obtain ⟨router, asked, _, won, tokens, _⟩ := goesTo market Sample.request quote routed
  refine ⟨⟨call, bound, built, carriesOut, ?_⟩, asked, won, tokens⟩
  exact BitVec.eq_of_toNat_eq (carriesOut.exact.trans (by decide))

end SwapDesk
