import SwapDesk.CommandLine.Run
import SwapDesk.Proofs.Endpoint.Requests
import SwapDesk.Proofs.Route.Reading
import SwapDesk.Proofs.Send.Bundling

namespace SwapDesk

theorem BatchRead.reads_of_run (chain : Chain) (contract : Address) (calls : List SubCall)
    (block : UInt64) (uid : Uid) :
    ∀ call ∈ (run chain contract calls block uid).calls, call.reads = true := by
  unfold run
  split
  · simp
  · simp [ChainCall.reads]

namespace TradeRouter

theorem reads_of_route (r : TradeRouter) (req : RouteRequest) :
    ∀ call ∈ (r.route req).calls, call.reads = true := by
  unfold route
  cases r.plan req with
  | error e => simp
  | ok plan =>
      cases r.chain.head 0 with
      | error e => simp [ChainCall.reads]
      | ok block =>
          exact List.forall_mem_cons.mpr ⟨rfl, BatchRead.reads_of_run r.chain r.batch _ block _⟩

theorem positive_of_route {r : TradeRouter} {req : RouteRequest} {quote : Quote}
    (routed : (r.route req).result = .ok quote) : req.amount ≠ 0 := by
  obtain ⟨plan, block, answers, reads⟩ := reads_of_route_ok routed
  obtain ⟨_, _, _, _, made⟩ := planned_of_plan reads.planned
  exact made.positive

end TradeRouter

namespace ChainCall

theorem isBroadcast_of_reads {call : ChainCall} (reads : call.reads = true) :
    call.isBroadcast = false := by
  cases call with
  | broadcast => exact nomatch reads
  | head | call | receipt | estimateGas | pendingNonce | gasPrice => rfl

end ChainCall

namespace CommandLine

theorem reads_of_mem_polls {hash : Hash} {receipts heads : List Nat} :
    ∀ call ∈ polls hash receipts heads, call.reads = true := by
  fun_induction polls hash receipts heads with
  | case1 heads => simp [ChainCall.reads]
  | case2 receipts => simp [ChainCall.reads]
  | case3 r receipts h heads first ih => simpa [ChainCall.reads] using ih
  | case4 r receipts h heads later ih => simpa [ChainCall.reads] using ih

theorem reads_or_asked {hash : Option Hash} {effects : List SendEffect} {call : ChainCall}
    (member : call ∈ questions hash effects) : call.reads = true ∨ .ask call ∈ effects := by
  induction effects generalizing hash with
  | nil => exact nomatch member
  | cons effect rest ih =>
      have later {hash : Option Hash} (member : call ∈ questions hash rest) :
          call.reads = true ∨ .ask call ∈ effect :: rest :=
        (ih member).imp_right (List.mem_cons_of_mem _)
      cases effect with
      | ask asked =>
          rcases List.mem_cons.mp member with rfl | member
          · exact .inr List.mem_cons_self
          · exact later member
      | insert row => exact later member
      | await wait =>
          rcases List.mem_append.mp member with polled | member
          · exact .inl (reads_of_mem_polls call polled)
          · exact later member
      | update hash u => exact later member

theorem countP_questions (hash : Option Hash) (effects : List SendEffect) :
    (questions hash effects).countP ChainCall.isBroadcast =
      effects.countP SendEffect.isBroadcast := by
  induction effects generalizing hash with
  | nil => rfl
  | cons effect rest ih =>
      cases effect with
      | ask call =>
          rw [questions, List.countP_cons, List.countP_cons, ih]
          cases call <;> rfl
      | insert row =>
          rw [questions, ih]
          rfl
      | await wait =>
          have polled : (polls (hash.getD ⟨0⟩) wait.receiptPolls wait.headPolls).countP
              ChainCall.isBroadcast = 0 := by
            rw [List.countP_eq_zero]
            intro call member
            simp [ChainCall.isBroadcast_of_reads (reads_of_mem_polls call member)]
          rw [questions, List.countP_append, polled, Nat.zero_add, ih]
          rfl
      | update other u =>
          rw [questions, ih]
          rfl

namespace Session

variable {s : Session} {t : TradeArguments} {asked waits : Bool} {store : AuditStore}
  {quote : Quote} {wallet router : Address} {call : PreparedCall}

def uidOf (s : Session) (t : TradeArguments) : Uid :=
  t.uid.getD s.desk.freshUid

theorem reads_of_route (s : Session) (t : TradeArguments) :
    ∀ call ∈ (s.route t (s.uidOf t)).calls, call.reads = true := by
  unfold route
  cases s.amount t (s.uidOf t) with
  | error why => simp
  | ok amount =>
      dsimp only
      exact TradeRouter.reads_of_route _ _

def Routes (s : Session) (t : TradeArguments) (quote : Quote) : Prop :=
  ∃ amount, s.amount t (s.uidOf t) = .ok amount ∧ amount ≠ 0 ∧
    (s.router.route (s.request t (s.uidOf t) amount)).result = .ok quote

theorem routes_of_route (routed : (s.route t (s.uidOf t)).result = .ok quote) :
    s.Routes t quote := by
  unfold route at routed
  cases worth : s.amount t (s.uidOf t) with
  | error why => simp only [worth, reduceCtorEq] at routed
  | ok amount =>
      simp only [worth] at routed
      have found := Checked.mapError_eq_ok_iff.mp routed
      exact ⟨amount, worth, TradeRouter.positive_of_route found, found⟩

/-- The step leaves the store as it is and only reads the chain. -/
structure Step.Quiet (step : Step) (store : AuditStore) : Prop where
  store : step.store = store
  reads : ∀ call ∈ step.calls, call.reads = true

theorem quiet_quote (s : Session) (t : TradeArguments) (store : AuditStore) :
    (s.quote t store).Quiet store := by
  have reads := s.reads_of_route t
  unfold uidOf at reads
  unfold Session.quote
  dsimp only
  split
  · exact ⟨rfl, by simpa only using reads⟩
  split
  · exact ⟨rfl, by simpa only using reads⟩
  · exact ⟨rfl, by simpa only using reads⟩

def chainAfterRoute (s : Session) (t : TradeArguments) : Chain :=
  s.client.chain.afterHeads ((s.route t (s.uidOf t)).calls.count .head)

def sending (s : Session) (t : TradeArguments) (asked waits : Bool) (wallet : Address)
    (call : PreparedCall) (store : AuditStore) : SendRun SendOutcome :=
  s.context.executor.send (s.chainAfterRoute t) s.desk.timing
    (sendRequest (s.uidOf t) wallet (asked || s.settings.production) waits call) store

/-- The step sends one request for a quote, after the questions of the route. -/
structure Sent (s : Session) (t : TradeArguments) (asked waits : Bool) (store : AuditStore)
    (quote : Quote) (payer : Address) (call : PreparedCall) (step : Step) : Prop where
  keyed : (asked || s.settings.production) = true → s.settings.walletKey.isSome
  wallet : s.settings.wallet = .ok payer
  routed : (s.route t (s.uidOf t)).result = .ok quote
  router : s.context.routers.get? quote.path.platform = some call.target
  calls : step.calls = (s.route t (s.uidOf t)).calls ++
    questions none (s.sending t asked waits payer call store).effects
  store : step.store = (s.sending t asked waits payer call store).store

theorem swapCall_eq_ok {slippageBps : UInt64}
    (built : s.swapCall t (s.uidOf t) slippageBps wallet quote = .ok call) :
    s.context.routers.get? quote.path.platform = some call.target := by
  unfold swapCall at built
  dsimp only at built
  split at built
  · exact nomatch built
  rename_i router routed
  split at built
  · split at built
    · rename_i made
      cases built
      obtain ⟨bound, _, rfl⟩ := Option.map_eq_some_iff.mp made
      exact routed
    · exact nomatch built
  · exact nomatch built

theorem quiet_or_sent_swap (s : Session) (t : TradeArguments) (asked noWait : Bool)
    (slippageBps : Option UInt64) (store : AuditStore) :
    (s.swap t asked noWait slippageBps store).Quiet store ∨ ∃ waits quote payer call,
      s.Sent t asked waits store quote payer call (s.swap t asked noWait slippageBps store) := by
  have reads := s.reads_of_route t
  unfold uidOf at reads
  unfold swap
  dsimp only
  split
  · exact .inl ⟨rfl, by simp⟩
  rename_i keyed
  split
  · exact .inl ⟨rfl, by simp⟩
  rename_i payer paid
  split
  · exact .inl ⟨rfl, by simpa only using reads⟩
  rename_i call built
  obtain ⟨quote, routed, built⟩ := Checked.bind_eq_ok_iff.mp built
  have router := swapCall_eq_ok built
  have keyed : (asked || s.settings.production) = true → s.settings.walletKey.isSome := by
    intro production
    simpa [production, Option.isSome_iff_ne_none] using keyed
  refine .inr ⟨s.settings.waitConfirmation && !noWait, quote, payer, call, ?_⟩
  split
  · exact ⟨keyed, paid, routed, router, rfl, rfl⟩
  · exact ⟨keyed, paid, routed, router, rfl, rfl⟩

theorem Sent.quiet {step : Step} (sent : s.Sent t asked waits store quote wallet call step)
    (dry : (asked || s.settings.production) = false) : step.Quiet store := by
  have silent : s.sending t asked waits wallet call store = ⟨.ok .dryRun, [], [], store⟩ := by
    unfold sending
    rw [dry]
    rfl
  refine ⟨by rw [sent.store, silent], ?_⟩
  rw [sent.calls, silent]
  simpa [questions] using s.reads_of_route t

structure Cleared (s : Session) (t : TradeArguments) (asked : Bool) (quote : Quote)
    (payer router : Address) : Prop where
  production : (asked || s.settings.production) = true
  keyed : s.settings.walletKey.isSome
  wallet : s.settings.wallet = .ok payer
  routed : s.Routes t quote
  router : s.context.routers.get? quote.path.platform = some router

/-- One transaction may have gone out, from the payer to the router, and one row been added for
it. -/
structure Step.Sends (step : Step) (store : AuditStore) (payer router : Address) : Prop where
  once : step.calls.countP ChainCall.isBroadcast ≤ 1
  broadcast : ∀ transaction, .broadcast transaction ∈ step.calls → transaction.Filled ∧
    transaction.sender = some payer ∧ transaction.destination = some (.account router)
  recorded : ∃ added, step.store.rows = store.rows ++ added ∧ added.length ≤ 1

theorem Sent.sends {step : Step} (sent : s.Sent t asked waits store quote wallet call step) :
    step.Sends store wallet call.target := by
  have course := Executor.course_send s.context.executor (s.chainAfterRoute t) s.desk.timing
    (sendRequest (s.uidOf t) wallet (asked || s.settings.production) waits call) store
  have carries := course.carries
  obtain ⟨once, delivered, recorded⟩ := course.delivers
  have reads := s.reads_of_route t
  refine ⟨?_, ?_, ?_⟩
  · have none : (s.route t (s.uidOf t)).calls.countP ChainCall.isBroadcast = 0 := by
      rw [List.countP_eq_zero]
      intro other member
      simp [ChainCall.isBroadcast_of_reads (reads other member)]
    rw [sent.calls, List.countP_append, none, Nat.zero_add, countP_questions]
    exact once
  · intro transaction member
    rw [sent.calls] at member
    rcases List.mem_append.mp member with routed | asked
    · exact nomatch reads _ routed
    rcases reads_or_asked asked with read | asked
    · exact nomatch read
    obtain ⟨destination, _, sender⟩ := delivered transaction asked
    obtain ⟨_, _, _, _, _, _, _, _, rfl⟩ := carries.broadcast transaction asked
    exact ⟨⟨rfl, rfl, rfl⟩, sender, destination⟩
  · obtain ⟨added, appended, short, _⟩ := recorded
    rw [sent.store]
    exact ⟨added, appended, short⟩

theorem quiet_or_sends_swap (s : Session) (t : TradeArguments) (asked noWait : Bool)
    (slippageBps : Option UInt64) (store : AuditStore) :
    let step := s.swap t asked noWait slippageBps store
    step.Quiet store ∨ ∃ quote payer router, s.Cleared t asked quote payer router ∧
      step.Sends store payer router := by
  intro step
  have quiet_or_sent : step.Quiet store ∨ ∃ waits quote payer call,
      s.Sent t asked waits store quote payer call step :=
    s.quiet_or_sent_swap t asked noWait slippageBps store
  rcases quiet_or_sent with quiet | ⟨waits, quote, payer, call, sent⟩
  · exact .inl quiet
  cases production : asked || s.settings.production with
  | false => exact .inl (sent.quiet production)
  | true =>
      have cleared : s.Cleared t asked quote payer call.target :=
        ⟨production, sent.keyed production, sent.wallet, routes_of_route sent.routed, sent.router⟩
      exact .inr ⟨quote, payer, call.target, cleared, sent.sends⟩

end Session

end CommandLine

end SwapDesk
