import SwapDesk.Proofs.Route.FixedSide

namespace SwapDesk

theorem decodeAmounts?_encodeAmounts {amounts : List Word} (few : amounts.length < 2 ^ 64)
    (rest : Bytes) : decodeAmounts? (encodeAmounts amounts ++ rest) = some amounts := by
  rw [decodeAmounts?, encodeAmounts, Abi.single_append, Abi.readSingle?_single,
    Abi.readWordArray?_wordArray few]

theorem length_le_encodeAmounts (amounts : List Word) :
    amounts.length ≤ (encodeAmounts amounts).length := by
  simp only [encodeAmounts, Abi.single, Abi.wordArray, List.length_append, Abi.length_word,
    Abi.length_words]
  omega

structure PricedByEnds (path : TradePath) (amounts : List Word) (data : Bytes) : Prop where
  fitting : amounts.length = path.length + 1 → ∃ first last,
    amounts.head? = some first ∧ amounts.getLast? = some last ∧
      endAmounts path.platform path data = .ok (first, last)
  miscounted : amounts.length ≠ path.length + 1 →
    endAmounts path.platform path data =
      .error (.incomparable path.platform amounts.length (path.length + 1))

theorem pricedByEnds_encodeAmounts {amounts : List Word} (few : amounts.length < 2 ^ 64)
    (path : TradePath) : PricedByEnds path amounts (encodeAmounts amounts) := by
  have decoded : decodeAmounts? (encodeAmounts amounts) = some amounts := by
    have read := decodeAmounts?_encodeAmounts few []
    rwa [List.append_nil] at read
  constructor
  · intro counted
    cases amounts with
    | nil => exact nomatch counted
    | cons first rest =>
        refine ⟨first, rest.getLastD first, rfl, ?_, ?_⟩
        · rw [List.getLast?_cons, List.getLastD_eq_getLast?]
        · simp only [endAmounts, decoded, counted, if_true, List.headD_cons, List.getLastD_cons]
  · intro miscounted
    simp only [endAmounts, decoded, miscounted, if_false]

theorem Answered.exists_zip_eq {paths : List TradePath} {results : List SubResult}
    (counted : paths.length = results.length) {i : Nat} {path : TradePath}
    (here : paths[i]? = some path) : ∃ result : SubResult, results[i]? = some result ∧
      (zip paths (results.map SubResult.answer?))[i]? = some ⟨path, result.answer?⟩ := by
  obtain ⟨inside, _⟩ := List.getElem?_eq_some_iff.mp here
  have there : results[i]? = some (results.get ⟨i, counted ▸ inside⟩) :=
    List.getElem?_eq_getElem _
  refine ⟨_, there, ?_⟩
  rw [zip, List.getElem?_zipWith, here, List.getElem?_map, there]
  rfl

namespace TradeRouter

variable {r r' : TradeRouter} {req req' : RouteRequest}

def question (r : TradeRouter) (req : RouteRequest) (path : TradePath) :
    Option Address × Direction × Word × List Address :=
  (r.routers.get? path.platform, req.direction, req.amount, path.tokens)

def asked? (call : Address × Bool × Bytes) :
    Option (Option Address × Direction × Word × List Address) :=
  (QuoteCall.decode? call.2.2).map fun asked => (some call.1, asked)

structure Asks (r : TradeRouter) (req : RouteRequest) (path : TradePath)
    (call : Address × Bool × Bytes) : Prop where
  router : r.routers.get? path.platform = some call.1
  allowed : call.2.1 = true
  data : call.2.2 = QuoteCall.ofPath path req.amount req.direction
  decoded : QuoteCall.decode? call.2.2 = some (req.direction, req.amount, path.tokens)

theorem asks_of_subCall {path : TradePath} {call : SubCall}
    (encoded : r.subCall req path = .ok call) : r.Asks req path (BatchRead.lenient call) where
  router := (subCall_eq_ok_iff.mp encoded).1
  allowed := rfl
  data := (subCall_eq_ok_iff.mp encoded).2
  decoded := decode?_subCall encoded

theorem Asks.asked? {path : TradePath} {call : Address × Bool × Bytes}
    (asks : r.Asks req path call) : asked? call = some (r.question req path) := by
  rw [TradeRouter.asked?, asks.decoded, question, asks.router]
  rfl

theorem map_asked? {paths : List TradePath} {decoded : List (Address × Bool × Bytes)}
    (asks : List.Forall₂ (r.Asks req) paths decoded) :
    decoded.map asked? = (paths.map (r.question req)).map some := by
  rw [List.map_map, ← List.forall₂_eq_eq_eq, List.forall₂_map_left_iff,
    List.forall₂_map_right_iff]
  exact asks.flip.imp fun _ _ asks => asks.asked?

theorem exists_subCalls_of_routed {paths : List TradePath}
    (routed : ∀ path ∈ paths, (r.routers.get? path.platform).isSome) :
    ∃ subCalls, paths.mapM (r.subCall req) = .ok subCalls := by
  refine Checked.exists_mapM_eq_ok fun path member => ?_
  obtain ⟨router, configured⟩ := Option.isSome_iff_exists.mp (routed path member)
  exact ⟨_, subCall_of_routed configured⟩

theorem decodeCalls?_of_subCalls {paths : List TradePath} {subCalls : List SubCall}
    (encoded : paths.mapM (r.subCall req) = .ok subCalls)
    (short : (BatchRead.encodeCalls subCalls).length < 2 ^ 64) :
    ∃ decoded, BatchRead.decodeCalls? (BatchRead.encodeCalls subCalls) = some decoded ∧
      List.Forall₂ (r.Asks req) paths decoded := by
  refine ⟨_, BatchRead.decodeCalls?_encodeCalls short, ?_⟩
  rw [List.forall₂_map_right_iff]
  exact (Checked.mapM_eq_ok_iff.mp encoded).imp fun _ _ => asks_of_subCall

theorem questions_eq_of_encodeCalls {paths paths' : List TradePath}
    {subCalls subCalls' : List SubCall}
    (encoded : paths.mapM (r.subCall req) = .ok subCalls)
    (encoded' : paths'.mapM (r'.subCall req') = .ok subCalls')
    (short : (BatchRead.encodeCalls subCalls).length < 2 ^ 64)
    (same : BatchRead.encodeCalls subCalls' = BatchRead.encodeCalls subCalls) :
    paths'.map (r'.question req') = paths.map (r.question req) := by
  obtain ⟨decoded, read, asks⟩ := decodeCalls?_of_subCalls encoded short
  have short' : (BatchRead.encodeCalls subCalls').length < 2 ^ 64 := by
    rw [same]
    exact short
  obtain ⟨decoded', read', asks'⟩ := decodeCalls?_of_subCalls encoded' short'
  rw [same, read] at read'
  cases read'
  have questions := (map_asked? asks').symm.trans (map_asked? asks)
  exact (Option.some_injective _).list_map questions

/-- The batch for a list of paths asks the router of each path, in their order, about the direction,
the amount and the whole path, and lets each of these sub-calls fail. A batch with the same payload
asks the same questions of the same routers. -/
theorem batch_asks_each {paths : List TradePath} (nonempty : paths ≠ [])
    (routed : ∀ path ∈ paths, (r.routers.get? path.platform).isSome) :
    ∃ subCalls, paths.mapM (r.subCall req) = .ok subCalls ∧
      (∀ block uid, (BatchRead.run r.chain r.batch subCalls block uid).calls =
        [.call (Transaction.call r.batch (BatchRead.encodeCalls subCalls)) block]) ∧
      ((BatchRead.encodeCalls subCalls).length < 2 ^ 64 →
        (∃ decoded, BatchRead.decodeCalls? (BatchRead.encodeCalls subCalls) = some decoded ∧
          List.Forall₂ (r.Asks req) paths decoded) ∧
        ∀ (r' : TradeRouter) (req' : RouteRequest) (paths' : List TradePath)
          (subCalls' : List SubCall), paths'.mapM (r'.subCall req') = .ok subCalls' →
          BatchRead.encodeCalls subCalls' = BatchRead.encodeCalls subCalls →
          req'.direction = req.direction ∧ req'.amount = req.amount ∧
            paths'.map (r'.question req') = paths.map (r.question req)) := by
  obtain ⟨subCalls, encoded⟩ : ∃ subCalls, paths.mapM (r.subCall req) = .ok subCalls :=
    exists_subCalls_of_routed routed
  have each := Checked.mapM_eq_ok_iff.mp encoded
  have asking : subCalls ≠ [] := by
    rintro rfl
    exact nonempty (List.forall₂_nil_right_iff.mp each)
  refine ⟨subCalls, encoded, ?_, ?_⟩
  · intro block uid
    rw [BatchRead.run_of_ne_nil asking]
    rfl
  · intro short
    refine ⟨decodeCalls?_of_subCalls encoded short, ?_⟩
    intro r' req' paths' subCalls' encoded' same
    have questions := questions_eq_of_encodeCalls encoded encoded' short same
    cases paths with
    | nil => exact absurd rfl nonempty
    | cons path paths =>
        obtain ⟨path', paths', rfl, first, _⟩ := List.map_eq_cons_iff.mp questions
        have rest := congrArg Prod.snd first
        exact ⟨congrArg Prod.fst rest, congrArg (fun q => q.2.1) rest, questions⟩

theorem batch_asks_each_market :
    ∃ subCalls decoded,
      Sample.plan.paths.mapM ((Sample.market []).subCall Sample.request) = .ok subCalls ∧
      BatchRead.decodeCalls? (BatchRead.encodeCalls subCalls) = some decoded ∧
      List.Forall₂ ((Sample.market []).Asks Sample.request) Sample.plan.paths decoded := by
  have routed : ∀ path ∈ Sample.plan.paths,
      ((Sample.market []).routers.get? path.platform).isSome := by
    decide
  obtain ⟨subCalls, encoded, _, readBack⟩ :=
    @batch_asks_each (Sample.market []) Sample.request Sample.plan.paths (by decide) routed
  have known : Sample.plan.paths.mapM ((Sample.market []).subCall Sample.request) =
      .ok Sample.plan.subCalls := rfl
  cases known.symm.trans encoded
  obtain ⟨⟨decoded, read, asks⟩, _⟩ := readBack (by decide +kernel)
  exact ⟨_, decoded, known, read, asks⟩

/-- Each candidate of the plan is priced by the result in its own place, and by nothing else. -/
structure PricedInPlace (r : TradeRouter) (req : RouteRequest) (plan : Plan) (block : UInt64)
    (results : List SubResult) : Prop where
  concluded : Concluded req (Answered.zip plan.paths (results.map SubResult.answer?)) block
    (r.route req).result
  paired : ∀ (i : Nat) (path : TradePath), plan.paths[i]? = some path →
    ∃ result : SubResult, results[i]? = some result ∧
      (Answered.zip plan.paths (results.map SubResult.answer?))[i]? = some ⟨path, result.answer?⟩
  priced : ∀ (i : Nat) (path : TradePath) (amounts : List Word), plan.paths[i]? = some path →
    results[i]? = some ⟨true, encodeAmounts amounts⟩ →
      PricedByEnds path amounts (encodeAmounts amounts)

variable {calls : List SubCall} {plan : Plan} {block : UInt64} {reply : Bytes}
  {results : List SubResult}

theorem pricedInPlace_of_laysOut {req : RouteRequest} (planned : r.plan req = .ok plan)
    (head : r.chain.head 0 = .ok block) (laysOut : BatchRead.LaysOut reply results)
    (replied : r.chain.call (BatchRead.transaction r.batch plan.subCalls) block = .ok reply)
    (counted : results.length = plan.subCalls.length) :
    r.PricedInPlace req plan block results := by
  obtain ⟨_, _, _, _, made⟩ := planned_of_plan planned
  have reads : r.Reads req plan block (results.map SubResult.answer?) :=
    ⟨planned, head, laysOut.run_eq_ok made.subCalls_ne_nil replied counted⟩
  refine ⟨reads.concluded, ?_, ?_⟩
  · intro i path atPath
    exact Answered.exists_zip_eq (made.encoded.length_eq.trans counted.symm) atPath
  · intro i path amounts _ atResult
    have inside := laysOut.length_data_lt (List.mem_of_getElem? atResult)
    have few := length_le_encodeAmounts amounts
    exact pricedByEnds_encodeAmounts (Nat.lt_of_le_of_lt few inside) path

/-- A batched read of some sub-calls fails under its uid or has an answer for each of them, whatever
the reply. A reply that lays out a list of results is refused exactly when their number is not that
of the sub-calls; else each sub-call is answered by the result in its place. In a run of the router
each candidate is priced by the result in its place: amounts that are laid out there give their first
and their last, if there is one for each token of the path, and else cannot be compared. -/
theorem answers_line_up (r : TradeRouter) {calls : List SubCall} (asking : calls ≠ [])
    (block : UInt64) (uid : Uid) :
    let outcome := (BatchRead.run r.chain r.batch calls block uid).result
    ((∃ reason, outcome = .error (.multicall uid reason)) ∨
      ∃ answers, outcome = .ok answers ∧ answers.length = calls.length) ∧
    ∀ reply results, BatchRead.LaysOut reply results →
      r.chain.call (BatchRead.transaction r.batch calls) block = .ok reply →
      ((∃ failure, outcome = .error failure) ↔ results.length ≠ calls.length) ∧
      (results.length = calls.length → outcome = .ok (results.map SubResult.answer?) ∧
        ∀ (req : RouteRequest) (plan : Plan), r.plan req = .ok plan → plan.subCalls = calls →
          r.chain.head 0 = .ok block → r.PricedInPlace req plan block results) := by
  intro outcome
  refine ⟨BatchRead.run_result r.chain r.batch calls block uid, ?_⟩
  intro reply results laysOut replied
  refine ⟨laysOut.run_eq_error_iff asking replied, ?_⟩
  intro counted
  refine ⟨laysOut.run_eq_ok asking replied counted, ?_⟩
  rintro req plan planned rfl head
  exact pricedInPlace_of_laysOut planned head laysOut replied counted

/-- Something stands behind the results; the second candidate is priced by the second result. -/
theorem answers_line_up_market :
    let results := [Sample.priced [10, 20, 30], Sample.priced [10, 30], Sample.reverted]
    let reply := BatchRead.encodeResults results ++ [1, 2, 3]
    let r := { Sample.market [] with chain := Sample.chain (.ok reply) }
    BatchRead.LaysOut reply results ∧ r.PricedInPlace Sample.request Sample.plan 7 results ∧
      PricedByEnds Sample.direct [10, 30] (encodeAmounts [10, 30]) := by
  intro results reply r
  have laysOut : BatchRead.LaysOut reply results := ⟨⟨[1, 2, 3], rfl⟩, by decide +kernel⟩
  have planned : r.plan Sample.request = .ok Sample.plan := by
    rw [TradeRouter.plan_chain]
    exact Sample.planned []
  have asking : Sample.plan.subCalls ≠ [] := by decide
  have linedUp := (answers_line_up r asking 7 "run").2 reply results laysOut rfl
  have priced := (linedUp.2 rfl).2 Sample.request Sample.plan planned rfl rfl
  exact ⟨laysOut, priced, priced.priced 1 Sample.direct [10, 30] rfl rfl⟩

end TradeRouter

end SwapDesk
