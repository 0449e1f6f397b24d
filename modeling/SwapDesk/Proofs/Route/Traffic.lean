import SwapDesk.Proofs.Route.FixedSide

namespace SwapDesk

namespace TradeRouter

variable {r : TradeRouter} {req : RouteRequest}

def candidates (r : TradeRouter) (req : RouteRequest) : Except Failure (List TradePath) := do
  let tokenIn ← r.resolve req.tokenIn req.chain req.uid
  let tokenOut ← r.resolve req.tokenOut req.chain req.uid
  let platforms ← r.platforms req
  let found ← platforms.mapM fun p =>
    Discovery.candidates r.source tokenIn.address tokenOut.address p req.chain
  return found.flatten

inductive Idle (r : TradeRouter) (req : RouteRequest) : Prop
  | unresolved (symbol : String) (named : symbol = req.tokenIn ∨ symbol = req.tokenOut)
      (unknown : r.tokens.resolve? symbol req.chain = none)
  | zeroAmount (zero : req.amount = 0)
  | sameToken (tokenIn tokenOut : Token)
      (resolvedIn : r.tokens.resolve? req.tokenIn req.chain = some tokenIn)
      (resolvedOut : r.tokens.resolve? req.tokenOut req.chain = some tokenOut)
      (same : tokenIn.address = tokenOut.address)
  | unconfigured (p : Platform)
      (needed : req.platform = some p ∨ ∃ paths, r.candidates req = .ok paths ∧
        ∃ path ∈ paths, path.platform = p)
      (unrouted : r.routers.get? p = none)
  | unreadable (platforms : List Platform) (p : Platform) (e : Failure)
      (searched : r.platforms req = .ok platforms) (member : p ∈ platforms)
      (failed : r.source req.chain p = .error e)
  | noCandidate (nothing : r.candidates req = .ok [])

theorem resolve_eq_ok_iff {symbol : String} {chain : UInt64} {uid : Uid} {token : Token} :
    r.resolve symbol chain uid = .ok token ↔ r.tokens.resolve? symbol chain = some token := by
  unfold TradeRouter.resolve
  cases r.tokens.resolve? symbol chain with
  | none => simp
  | some found => simp

theorem candidates_eq_ok {tokenIn tokenOut : Token} {platforms : List Platform}
    {found : List (List TradePath)}
    (resolvedIn : r.resolve req.tokenIn req.chain req.uid = .ok tokenIn)
    (resolvedOut : r.resolve req.tokenOut req.chain req.uid = .ok tokenOut)
    (searched : r.platforms req = .ok platforms)
    (listed : platforms.mapM (fun p => Discovery.candidates r.source tokenIn.address
      tokenOut.address p req.chain) = .ok found) :
    r.candidates req = .ok found.flatten := by
  simp only [candidates, resolvedIn, resolvedOut, searched, listed, bind, Except.bind]
  rfl

theorem Planned.candidates_eq {plan : Plan} {tokenIn tokenOut : Token} {platforms : List Platform}
    {found : List (List TradePath)}
    (made : r.Planned req plan tokenIn tokenOut platforms found) :
    r.candidates req = .ok plan.paths := by
  rw [made.flattened]
  exact candidates_eq_ok made.resolvedIn made.resolvedOut made.searched
    (Checked.mapM_eq_ok_iff.mpr made.listed)

theorem not_idle_of_plan {plan : Plan} (planned : r.plan req = .ok plan) : ¬ r.Idle req := by
  obtain ⟨tokenIn, tokenOut, platforms, found, made⟩ := planned_of_plan planned
  intro idle
  cases idle with
  | unresolved symbol named unknown =>
      rcases named with rfl | rfl
      · exact nomatch (resolve_eq_ok_iff.mp made.resolvedIn).symm.trans unknown
      · exact nomatch (resolve_eq_ok_iff.mp made.resolvedOut).symm.trans unknown
  | zeroAmount zero => exact made.positive zero
  | sameToken tokenIn' tokenOut' resolvedIn resolvedOut same =>
      cases (resolve_eq_ok_iff.mp made.resolvedIn).symm.trans resolvedIn
      cases (resolve_eq_ok_iff.mp made.resolvedOut).symm.trans resolvedOut
      exact made.distinct same
  | unconfigured p needed unrouted =>
      rcases needed with asked | ⟨paths, listed, path, member, rfl⟩
      · rcases platforms_eq_ok_iff.mp made.searched with ⟨anywhere, _⟩ | ⟨_, _, asked', routed, _⟩
        · exact nomatch anywhere.symm.trans asked
        · cases asked.symm.trans asked'
          exact nomatch unrouted.symm.trans routed
      · cases made.candidates_eq.symm.trans listed
        obtain ⟨call, _, encoded⟩ := Checked.exists_of_mem_left made.encoded member
        exact nomatch unrouted.symm.trans (subCall_eq_ok_iff.mp encoded).1
  | unreadable platforms' p e searched member failed =>
      cases made.searched.symm.trans searched
      obtain ⟨paths, _, listed⟩ := Checked.exists_of_mem_left made.listed member
      rw [Discovery.candidates, failed] at listed
      exact nomatch listed
  | noCandidate nothing =>
      exact made.nonempty (Except.ok.inj (made.candidates_eq.symm.trans nothing))

theorem exists_token (busy : ¬ r.Idle req) {symbol : String}
    (named : symbol = req.tokenIn ∨ symbol = req.tokenOut) :
    ∃ token, r.resolve symbol req.chain req.uid = .ok token := by
  cases known : r.tokens.resolve? symbol req.chain with
  | none => exact absurd (.unresolved symbol named known) busy
  | some token => exact ⟨token, resolve_eq_ok_iff.mpr known⟩

theorem exists_platforms (busy : ¬ r.Idle req) : ∃ platforms, r.platforms req = .ok platforms := by
  cases asked : req.platform with
  | none => exact ⟨_, platforms_eq_ok_iff.mpr (.inl ⟨asked, rfl⟩)⟩
  | some p =>
      cases routed : r.routers.get? p with
      | none => exact absurd (.unconfigured p (.inl asked) routed) busy
      | some router =>
          exact ⟨_, platforms_eq_ok_iff.mpr (.inr ⟨p, router, asked, routed, rfl⟩)⟩

theorem exists_found (busy : ¬ r.Idle req) {platforms : List Platform}
    (searched : r.platforms req = .ok platforms) (start finish : Address) :
    ∃ found, platforms.mapM (fun p =>
      Discovery.candidates r.source start finish p req.chain) = .ok found := by
  refine Checked.exists_mapM_eq_ok fun p member => ?_
  cases read : r.source req.chain p with
  | error e => exact absurd (.unreadable platforms p e searched member read) busy
  | ok pools => exact ⟨_, by rw [Discovery.candidates, read]; rfl⟩

theorem exists_subCalls (busy : ¬ r.Idle req) {paths : List TradePath}
    (candidates : r.candidates req = .ok paths) :
    ∃ subCalls, paths.mapM (r.subCall req) = .ok subCalls := by
  refine Checked.exists_mapM_eq_ok fun path member => ?_
  cases routed : r.routers.get? path.platform with
  | none => exact absurd (.unconfigured _ (.inr ⟨_, candidates, path, member, rfl⟩) routed) busy
  | some router => exact ⟨_, subCall_of_routed routed⟩

theorem exists_plan (busy : ¬ r.Idle req) : ∃ plan, r.plan req = .ok plan := by
  obtain ⟨tokenIn, resolvedIn⟩ := exists_token busy (.inl rfl)
  obtain ⟨tokenOut, resolvedOut⟩ := exists_token busy (.inr rfl)
  have positive : req.amount ≠ 0 := fun zero => busy (.zeroAmount zero)
  have distinct : tokenIn.address ≠ tokenOut.address := fun same =>
    busy (.sameToken tokenIn tokenOut (resolve_eq_ok_iff.mp resolvedIn)
      (resolve_eq_ok_iff.mp resolvedOut) same)
  obtain ⟨platforms, searched⟩ := exists_platforms busy
  obtain ⟨found, listed⟩ := exists_found busy searched tokenIn.address tokenOut.address
  have candidates := candidates_eq_ok resolvedIn resolvedOut searched listed
  have nonempty : found.flatten ≠ [] := fun nothing => busy (.noCandidate (nothing ▸ candidates))
  have some : found.flatten.isEmpty = false := by simpa using nonempty
  obtain ⟨subCalls, encoded⟩ := exists_subCalls busy candidates
  refine ⟨⟨found.flatten, subCalls⟩, ?_⟩
  unfold TradeRouter.plan
  simp only [resolvedIn, resolvedOut, positive, distinct, searched, listed, some, encoded, bind,
    Except.bind, if_false]
  rfl

/-- The payload asks the router of each candidate, in their order, for the price of that candidate
and lets each of these sub-calls fail. -/
def AsksForEach (r : TradeRouter) (req : RouteRequest) (paths : List TradePath)
    (payload : Bytes) : Prop :=
  ∃ subCalls : List SubCall,
    payload = BatchRead.encodeCalls subCalls ∧
    List.Forall₂ (fun path (call : SubCall) =>
      r.routers.get? path.platform = some call.target ∧
      QuoteCall.decode? call.data = some (req.direction, req.amount, path.tokens) ∧
      BatchRead.decodeCall? (BatchRead.encodeCall call) = some (call.target, true, call.data))
      paths subCalls ∧
    (payload.length < 2 ^ 64 → BatchRead.decodeCalls? payload =
      some (subCalls.map fun call => (call.target, true, call.data)))

/-- What a run has asked of the chain, and where a quote comes from. -/
inductive Traffic (r : TradeRouter) (req : RouteRequest) : RouteRun → Prop
  | nothing (e : Failure) (idle : r.Idle req) : Traffic r req ⟨.error e, []⟩
  | headOnly (e : Failure) (busy : ¬ r.Idle req) (failed : r.chain.head 0 = .error e) :
      Traffic r req ⟨.error e, [.head]⟩
  | oneCall (result : Except Failure Quote) (block : UInt64) (paths : List TradePath)
      (payload : Bytes) (busy : ¬ r.Idle req) (head : r.chain.head 0 = .ok block)
      (candidates : r.candidates req = .ok paths) (asks : r.AsksForEach req paths payload)
      (priced : ∀ quote, result = .ok quote → quote.block = block ∧
        ∃ reply answers, r.chain.call (Transaction.call r.batch payload) block = .ok reply ∧
          BatchRead.answers paths.length block (.ok reply) = .ok answers ∧
          ∃ c ∈ Answered.zip paths answers, c.price? = some quote.priced) :
      Traffic r req ⟨result, [.head, .call (Transaction.call r.batch payload) block]⟩

theorem Planned.asksForEach {plan : Plan} {tokenIn tokenOut : Token} {platforms : List Platform}
    {found : List (List TradePath)}
    (made : r.Planned req plan tokenIn tokenOut platforms found) :
    r.AsksForEach req plan.paths (BatchRead.encodeCalls plan.subCalls) := by
  refine ⟨plan.subCalls, rfl, made.encoded.imp fun path call encoded => ?_,
    BatchRead.decodeCalls?_encodeCalls⟩
  obtain ⟨routed, data⟩ := subCall_eq_ok_iff.mp encoded
  have short : call.data.length < 2 ^ 64 := by
    rw [data]
    exact QuoteCall.length_ofPath_lt path req.amount req.direction
  have read := BatchRead.decodeCall?_encodeCall short []
  rw [List.append_nil] at read
  exact ⟨routed, decode?_subCall encoded, read⟩

theorem route_of_head {plan : Plan} {block : UInt64} (planned : r.plan req = .ok plan)
    (head : r.chain.head 0 = .ok block) :
    r.route req = ⟨(r.route req).result,
      [.head, .call (BatchRead.transaction r.batch plan.subCalls) block]⟩ := by
  obtain ⟨_, _, _, _, made⟩ := planned_of_plan planned
  unfold route
  simp only [planned, head, BatchRead.run_of_ne_nil made.subCalls_ne_nil]

theorem Reads.exists_reply {plan : Plan} {block : UInt64} {answers : List (Option Bytes)}
    (reads : r.Reads req plan block answers) :
    ∃ reply, r.chain.call (BatchRead.transaction r.batch plan.subCalls) block = .ok reply ∧
      BatchRead.answers plan.paths.length block (.ok reply) = .ok answers := by
  obtain ⟨_, _, _, _, made⟩ := planned_of_plan reads.planned
  have answered := reads.answered
  rw [BatchRead.run_of_ne_nil made.subCalls_ne_nil] at answered
  have counted := Checked.mapError_eq_ok_iff.mp answered
  rw [← made.encoded.length_eq] at counted
  obtain ⟨reply, replied⟩ := BatchRead.exists_reply counted
  rw [replied] at counted
  exact ⟨reply, replied, counted⟩

/-- A request asks the chain for nothing exactly when it can be settled without it. Any other asks
for the block number and, if it gets one, asks once more: at that block, for all candidates. A quote
is of that block, and its price is in the reply to that one call. -/
theorem traffic_of_route (r : TradeRouter) (req : RouteRequest) :
    Traffic r req (r.route req) := by
  cases planned : r.plan req with
  | error e =>
      have idle : r.Idle req := by
        by_contra busy
        obtain ⟨plan, found⟩ := exists_plan busy
        exact nomatch planned.symm.trans found
      have silent : r.route req = ⟨.error e, []⟩ := by
        unfold route
        simp only [planned]
      rw [silent]
      exact .nothing e idle
  | ok plan =>
      have busy := not_idle_of_plan planned
      obtain ⟨tokenIn, tokenOut, platforms, found, made⟩ := planned_of_plan planned
      cases head : r.chain.head 0 with
      | error e =>
          have stopped : r.route req = ⟨.error e, [.head]⟩ := by
            unfold route
            simp only [planned, head]
          rw [stopped]
          exact .headOnly e busy head
      | ok block =>
          rw [route_of_head planned head]
          refine .oneCall _ block plan.paths _ busy head made.candidates_eq made.asksForEach ?_
          intro quote routed
          obtain ⟨plan', block', answers, reads⟩ := reads_of_route_ok routed
          cases planned.symm.trans reads.planned
          cases head.symm.trans reads.head
          obtain ⟨reply, replied, answered⟩ := reads.exists_reply
          exact ⟨reads.block_eq routed, reply, answers, replied, answered, reads.winner routed⟩

end TradeRouter

end SwapDesk
