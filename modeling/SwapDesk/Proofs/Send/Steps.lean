import SwapDesk.Proofs.Send.Depth
import SwapDesk.Proofs.Send.Recording

namespace SwapDesk

namespace SendEffect

def isBroadcast : SendEffect → Bool
  | ask (.broadcast _) => true
  | _ => false

/-- The step succeeds and leaves the store `store'`. A wait succeeds when it ends with a receipt,
however many of its polls have failed. -/
inductive Succeeds (chain : Chain) (store : AuditStore) : SendEffect → AuditStore → Prop
  | estimate {t : Transaction} {gas : UInt64} (answered : chain.estimateGas t = .ok gas) :
      Succeeds chain store (.ask (.estimateGas t)) store
  | nonce {account : Address} {nonce : UInt64} (answered : chain.pendingNonce account = .ok nonce) :
      Succeeds chain store (.ask (.pendingNonce account)) store
  | price {gasPrice : GasPrice} (answered : chain.gasPrice = .ok gasPrice) :
      Succeeds chain store (.ask .gasPrice) store
  | broadcast {t : Transaction} {hash : Hash} (answered : chain.broadcast t = .ok hash) :
      Succeeds chain store (.ask (.broadcast t)) store
  | insert {row : NewRow} {saved : AuditRow} {store' : AuditStore}
      (entered : store.save row = .ok (saved, store')) :
      Succeeds chain store (.insert row) store'
  | await {wait : Wait} {receipt : Receipt} (ended : wait.ending = .confirmed receipt) :
      Succeeds chain store (.await wait) store
  | update {hash : Hash} {u : RowUpdate} {store' : AuditStore}
      (settled : store.confirm hash u = .ok store') :
      Succeeds chain store (.update hash u) store'

/-- The steps are taken in their order up to the first that fails, which is the last one taken. -/
inductive Takes (chain : Chain) :
    AuditStore → List SendEffect → List SendEffect → AuditStore → Prop
  | finished {store : AuditStore} : Takes chain store [] [] store
  | failed {store : AuditStore} {step : SendEffect} {steps : List SendEffect}
      (fails : ∀ store', ¬ step.Succeeds chain store store') :
      Takes chain store (step :: steps) [step] store
  | succeeded {store store' left : AuditStore} {step : SendEffect} {steps taken : List SendEffect}
      (succeeds : step.Succeeds chain store store') (onward : Takes chain store' steps taken left) :
      Takes chain store (step :: steps) (step :: taken) left

theorem Takes.prefix_steps {chain : Chain} {store left : AuditStore}
    {steps taken : List SendEffect} (takes : Takes chain store steps taken left) :
    taken <+: steps := by
  induction takes with
  | finished => exact List.prefix_refl _
  | failed fails => exact List.cons_prefix_cons.mpr ⟨rfl, List.nil_prefix⟩
  | succeeded succeeds onward ih => exact List.cons_prefix_cons.mpr ⟨rfl, ih⟩

end SendEffect

namespace Executor

open SendEffect

variable {x : Executor} {chain : Chain} {timing : WaitTiming} {req : SendRequest}
  {store : AuditStore} {hash : Hash} {row : NewRow} {run : SendRun SendOutcome}

/-- What the chain tells a send. A question without an answer leaves a zero here, and no step that
is taken depends on it. -/
structure Told where
  estimated : UInt64
  nonce : UInt64
  gasPrice : GasPrice
  hash : Hash
  receipt : Receipt

def told (x : Executor) (chain : Chain) (timing : WaitTiming) (req : SendRequest) : Told :=
  let estimated := (chain.estimateGas (addressed req)).toOption.getD 0
  let nonce := (chain.pendingNonce req.sender).toOption.getD 0
  let gasPrice := chain.gasPrice.toOption.getD 0
  let hash := (chain.broadcast (outgoing x req estimated nonce gasPrice)).toOption.getD ⟨0⟩
  let receipt := ((waitFor x chain timing hash).result x.policy hash req.uid).toOption.getD default
  ⟨estimated, nonce, gasPrice, hash, receipt⟩

def recordSteps (x : Executor) (chain : Chain) (timing : WaitTiming) (req : SendRequest)
    (hash : Hash) (row : NewRow) (receipt : Receipt) : List SendEffect :=
  .insert row ::
    if req.waitConfirmation then
      [.await (waitFor x chain timing hash), .update hash (rowUpdate receipt)]
    else []

def sendSteps (x : Executor) (chain : Chain) (timing : WaitTiming) (req : SendRequest)
    (told : Told) : List SendEffect :=
  .ask (.estimateGas (addressed req)) :: .ask (.pendingNonce req.sender) :: .ask .gasPrice ::
    .ask (.broadcast (outgoing x req told.estimated told.nonce told.gasPrice)) ::
    recordSteps x chain timing req told.hash
      (outgoingRow x req told.hash told.estimated told.nonce told.gasPrice) told.receipt

theorem not_succeeds_await {why : Halt} {policy : ConfirmationPolicy} {uid : Uid} {wait : Wait}
    (ended : wait.result policy hash uid = .error why) (left : AuditStore) :
    ¬ Succeeds chain store (.await wait) left := by
  intro succeeds
  cases succeeds with
  | await confirmed => exact nomatch (Confirmation.result_eq_ok_iff.mpr confirmed).symm.trans ended

theorem succeeds_await {receipt : Receipt} {policy : ConfirmationPolicy} {uid : Uid} {wait : Wait}
    (ended : wait.result policy hash uid = .ok receipt) :
    Succeeds chain store (.await wait) store :=
  .await (Confirmation.result_eq_ok_iff.mp ended)

theorem Aftermath.takes (after : Aftermath x chain timing req hash row store run)
    {receipt : Receipt}
    (returns : ∀ found, (waitFor x chain timing hash).result x.policy hash req.uid = .ok found →
      receipt = found) :
    Takes chain store (recordSteps x chain timing req hash row receipt) run.effects run.store := by
  unfold recordSteps
  cases after with
  | unrecorded refused =>
      refine .failed ?_
      intro left succeeds
      cases succeeds with
      | insert entered => exact nomatch entered.symm.trans refused
  | submitted entered leaves =>
      rw [if_neg (by simp [leaves])]
      exact .succeeded (.insert entered) .finished
  | interrupted entered stays ended | crashed entered stays ended =>
      rw [if_pos stays]
      exact .succeeded (.insert entered) (.failed (not_succeeds_await ended))
  | unsettled entered stays ended refused =>
      rw [if_pos stays, returns _ ended]
      refine .succeeded (.insert entered) (.succeeded (succeeds_await ended) (.failed ?_))
      intro left succeeds
      cases succeeds with
      | update settled => exact nomatch settled.symm.trans refused
  | rejected entered stays ended settled | confirmed entered stays ended settled =>
      rw [if_pos stays, returns _ ended]
      exact .succeeded (.insert entered)
        (.succeeded (succeeds_await ended) (.succeeded (.update settled) .finished))

theorem Ready.told_eq {estimated nonce : UInt64} {gasPrice : GasPrice}
    (ready : Ready chain req estimated nonce gasPrice) :
    told x chain timing req =
      let hash := (chain.broadcast (outgoing x req estimated nonce gasPrice)).toOption.getD ⟨0⟩
      let receipt :=
        ((waitFor x chain timing hash).result x.policy hash req.uid).toOption.getD default
      ⟨estimated, nonce, gasPrice, hash, receipt⟩ := by
  simp only [told, ready.estimate, ready.pending, ready.price, Except.toOption, Option.getD_some]

theorem Course.takes (course : Course x chain timing req store run)
    (production : req.production = true) :
    Takes chain store (sendSteps x chain timing req (told x chain timing req)) run.effects
      run.store := by
  unfold sendSteps
  cases course with
  | dry dry => exact nomatch dry.symm.trans production
  | unestimated _ refused =>
      refine .failed ?_
      intro left succeeds
      cases succeeds with
      | estimate answered => exact nomatch answered.symm.trans refused
  | unnumbered _ estimate refused =>
      refine .succeeded (.estimate estimate) (.failed ?_)
      intro left succeeds
      cases succeeds with
      | nonce answered => exact nomatch answered.symm.trans refused
  | unpriced _ estimate pending refused =>
      refine .succeeded (.estimate estimate) (.succeeded (.nonce pending) (.failed ?_))
      intro left succeeds
      cases succeeds with
      | price answered => exact nomatch answered.symm.trans refused
  | unsent ready refused =>
      rw [ready.told_eq]
      refine .succeeded (.estimate ready.estimate) (.succeeded (.nonce ready.pending)
        (.succeeded (.price ready.price) (.failed ?_)))
      intro left succeeds
      cases succeeds with
      | broadcast answered => exact nomatch answered.symm.trans refused
  | sent ready accepted after =>
      rw [ready.told_eq, accepted]
      refine .succeeded (.estimate ready.estimate) (.succeeded (.nonce ready.pending)
        (.succeeded (.price ready.price) (.succeeded (.broadcast accepted) ?_)))
      refine after.takes fun found ended => ?_
      exact congrArg (fun result => result.toOption.getD default) ended

structure Carries (x : Executor) (chain : Chain) (req : SendRequest) (effects : List SendEffect) :
    Prop where
  estimated : ∀ t, .ask (.estimateGas t) ∈ effects →
    t = { req.transaction with sender := some req.sender }
  numbered : ∀ account, .ask (.pendingNonce account) ∈ effects → account = req.sender
  broadcast : ∀ t, .ask (.broadcast t) ∈ effects → ∃ estimated gas nonce gasPrice,
    chain.estimateGas { req.transaction with sender := some req.sender } = .ok estimated ∧
    chain.pendingNonce req.sender = .ok nonce ∧ chain.gasPrice = .ok gasPrice ∧
    gas.toNat = min (estimated.toNat + x.gasBuffer.toNat) (2 ^ 64 - 1) ∧
    t = { req.transaction with
      sender := some req.sender, gas := some gas, nonce := some nonce, gasPrice := some gasPrice }
  inserted : ∀ row, .insert row ∈ effects → ∃ t, .ask (.broadcast t) ∈ effects ∧
    chain.broadcast t = .ok row.hash ∧ t.nonce = some row.nonce ∧ t.gas = some row.gasLimit ∧
    t.gasPrice = some row.gasPrice
  awaited : ∀ wait, .await wait ∈ effects → req.waitConfirmation = true
  updated : ∀ hash update, .update hash update ∈ effects → req.waitConfirmation = true
  once : effects.countP isBroadcast ≤ 1

theorem Aftermath.mem_insert_iff {other : NewRow}
    (after : Aftermath x chain timing req hash row store run) :
    .insert other ∈ run.effects ↔ other = row := by
  cases after <;> simp

theorem Course.broadcast_of_insert (course : Course x chain timing req store run)
    (member : .insert row ∈ run.effects) :
    ∃ t, .ask (.broadcast t) ∈ run.effects ∧ chain.broadcast t = .ok row.hash ∧
      t.nonce = some row.nonce ∧ t.gas = some row.gasLimit ∧ t.gasPrice = some row.gasPrice := by
  cases course with
  | dry | unestimated | unnumbered | unpriced | unsent => simp at member
  | sent ready accepted after =>
      have inRest := member
      simp only [List.mem_cons, reduceCtorEq, false_or] at inRest
      cases after.mem_insert_iff.mp inRest
      exact ⟨_, by simp, accepted, rfl, rfl, rfl⟩

theorem countP_sendSteps (t : Told) : (sendSteps x chain timing req t).countP isBroadcast = 1 := by
  rw [sendSteps, recordSteps]
  cases req.waitConfirmation with
  | false => rfl
  | true => rfl

theorem Course.prefix_sendSteps (course : Course x chain timing req store run) :
    run.effects <+: sendSteps x chain timing req (told x chain timing req) := by
  cases production : req.production with
  | true => exact (course.takes production).prefix_steps
  | false =>
      cases course with
      | dry => exact List.nil_prefix
      | unestimated live | unnumbered live | unpriced live => exact nomatch production.symm.trans live
      | unsent ready | sent ready => exact nomatch production.symm.trans ready.production

theorem Course.carries (course : Course x chain timing req store run) :
    Carries x chain req run.effects := by
  have planned := course.prefix_sendSteps.subset
  constructor
  case estimated =>
    intro t member
    have same : t = addressed req := by
      cases stays : req.waitConfirmation <;>
        simpa [sendSteps, recordSteps, stays] using planned member
    exact same
  case numbered =>
    intro account member
    cases stays : req.waitConfirmation <;>
      simpa [sendSteps, recordSteps, stays] using planned member
  case broadcast =>
    intro t member
    obtain ⟨estimated, nonce, gasPrice, ready, rfl, _⟩ := course.of_asked member
    exact ⟨estimated, saturatingAdd estimated x.gasBuffer, nonce, gasPrice, ready.estimate,
      ready.pending, ready.price, toNat_saturatingAdd _ _, rfl⟩
  case inserted => exact fun row member => course.broadcast_of_insert member
  case awaited =>
    intro wait member
    by_contra leaves
    simpa [sendSteps, recordSteps, leaves] using planned member
  case updated =>
    intro hash update member
    by_contra leaves
    simpa [sendSteps, recordSteps, leaves] using planned member
  case once =>
    have bound : run.effects.countP isBroadcast ≤ _ := course.prefix_sendSteps.sublist.countP_le
    rwa [countP_sendSteps] at bound

/-- A dry run has no effect. Any other send takes its steps in their order, up to the first that
fails; there is one broadcast at most, and what is estimated, sent and recorded is the request with
its sender and with the gas limit, the nonce and the price that have just been read. -/
theorem effects_of_send (x : Executor) (chain : Chain) (timing : WaitTiming) (req : SendRequest)
    (store : AuditStore) :
    let run := x.send chain timing req store
    let steps := sendSteps x chain timing req (told x chain timing req)
    (req.production = false → run.effects = [] ∧ run.store = store) ∧
    (req.production = true →
      Takes chain store steps run.effects run.store ∧ run.effects <+: steps) ∧
    Carries x chain req run.effects := by
  intro run steps
  have course : Course x chain timing req store run := course_send x chain timing req store
  refine ⟨?_, fun production => ⟨course.takes production, course.prefix_sendSteps⟩, course.carries⟩
  intro dry
  have silent : run = ⟨.ok .dryRun, [], [], store⟩ := by
    simp only [run, send, dry]
    rfl
  rw [silent]
  exact ⟨rfl, rfl⟩

end Executor

end SwapDesk
