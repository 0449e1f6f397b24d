import SwapDesk.Proofs.Send.Rows
import SwapDesk.Send.Executor

namespace SwapDesk.Executor

variable (x : Executor) (chain : Chain) (timing : WaitTiming) (req : SendRequest)

def waitFor (hash : Hash) : Wait :=
  Confirmation.wait x.policy (waitScript chain timing hash)

/-- The courses after a broadcast. -/
inductive Aftermath (hash : Hash) (row : NewRow) (store : AuditStore) :
    SendRun SendOutcome → Prop
  | unrecorded {fault : StoreFault} (refused : store.save row = .error fault) :
      Aftermath hash row store
        { result := .error (.failed (.persistence req.uid hash fault))
          states := [(.sent, .failed)]
          effects := [.insert row]
          store := store }
  | submitted {saved : AuditRow} {store' : AuditStore}
      (entered : store.save row = .ok (saved, store')) (leaves : req.waitConfirmation = false) :
      Aftermath hash row store
        { result := .ok (.submitted hash saved.id)
          states := [(.sent, .persisted), (.persisted, .done)]
          effects := [.insert row]
          store := store' }
  | interrupted {saved : AuditRow} {store' : AuditStore} {failure : Failure}
      (entered : store.save row = .ok (saved, store')) (stays : req.waitConfirmation = true)
      (ended : (waitFor x chain timing hash).result x.policy hash req.uid =
        .error (.failed failure)) :
      Aftermath hash row store
        { result := .error (.failed failure)
          states := [(.sent, .persisted), (.persisted, .confirming), (.confirming, .failed)]
          effects := [.insert row, .await (waitFor x chain timing hash)]
          store := store' }
  | crashed {saved : AuditRow} {store' : AuditStore}
      (entered : store.save row = .ok (saved, store')) (stays : req.waitConfirmation = true)
      (ended : (waitFor x chain timing hash).result x.policy hash req.uid = .error .crashed) :
      Aftermath hash row store
        { result := .error .crashed
          states := [(.sent, .persisted), (.persisted, .confirming)]
          effects := [.insert row, .await (waitFor x chain timing hash)]
          store := store' }
  | unsettled {saved : AuditRow} {store' : AuditStore} {receipt : Receipt} {fault : StoreFault}
      (entered : store.save row = .ok (saved, store')) (stays : req.waitConfirmation = true)
      (ended : (waitFor x chain timing hash).result x.policy hash req.uid = .ok receipt)
      (refused : store'.confirm hash (rowUpdate receipt) = .error fault) :
      Aftermath hash row store
        { result := .error (.failed (.persistence req.uid hash fault))
          states := [(.sent, .persisted), (.persisted, .confirming), (.confirming, .failed)]
          effects := [.insert row, .await (waitFor x chain timing hash),
            .update hash (rowUpdate receipt)]
          store := store' }
  | rejected {saved : AuditRow} {store' store'' : AuditStore} {receipt : Receipt}
      {failure : Failure}
      (entered : store.save row = .ok (saved, store')) (stays : req.waitConfirmation = true)
      (ended : (waitFor x chain timing hash).result x.policy hash req.uid = .ok receipt)
      (settled : store'.confirm hash (rowUpdate receipt) = .ok store'')
      (judged : receipt.classify req.uid (req.check.getD x.check).flags = .error failure) :
      Aftermath hash row store
        { result := .error (.failed failure)
          states := [(.sent, .persisted), (.persisted, .confirming), (.confirming, .failed)]
          effects := [.insert row, .await (waitFor x chain timing hash),
            .update hash (rowUpdate receipt)]
          store := store'' }
  | confirmed {saved : AuditRow} {store' store'' : AuditStore} {receipt : Receipt}
      (entered : store.save row = .ok (saved, store')) (stays : req.waitConfirmation = true)
      (ended : (waitFor x chain timing hash).result x.policy hash req.uid = .ok receipt)
      (settled : store'.confirm hash (rowUpdate receipt) = .ok store'')
      (judged : receipt.classify req.uid (req.check.getD x.check).flags = .ok ()) :
      Aftermath hash row store
        { result := .ok (.confirmed hash saved.id receipt)
          states := [(.sent, .persisted), (.persisted, .confirming), (.confirming, .done)]
          effects := [.insert row, .await (waitFor x chain timing hash),
            .update hash (rowUpdate receipt)]
          store := store'' }

theorem confirm_of_error {hash : Hash} {recordId : Nat} {store : AuditStore} {why : Halt}
    (ended : (waitFor x chain timing hash).result x.policy hash req.uid = .error why) :
    confirm x chain timing req hash recordId store =
      .after (.await (waitFor x chain timing hash)) (halt store .confirming why) := by
  unfold waitFor at ended
  simp only [confirm, ended]
  rfl

theorem confirm_of_ok {hash : Hash} {recordId : Nat} {store : AuditStore} {receipt : Receipt}
    (ended : (waitFor x chain timing hash).result x.policy hash req.uid = .ok receipt) :
    confirm x chain timing req hash recordId store =
      .after (.await (waitFor x chain timing hash))
        (settle x req hash recordId receipt store) := by
  unfold waitFor at ended
  simp only [confirm, ended]
  rfl

theorem aftermath_record (hash : Hash) (row : NewRow) (store : AuditStore) :
    Aftermath x chain timing req hash row store (record x chain timing req hash row store) := by
  unfold record
  cases entered : store.save row with
  | error fault => exact .unrecorded entered
  | ok made =>
      obtain ⟨saved, store'⟩ := made
      cases stays : req.waitConfirmation with
      | false => exact .submitted entered stays
      | true =>
          simp only [if_true]
          cases ended : (waitFor x chain timing hash).result x.policy hash req.uid with
          | error why =>
              rw [confirm_of_error x chain timing req ended]
              cases why with
              | failed failure => exact .interrupted entered stays ended
              | crashed => exact .crashed entered stays ended
          | ok receipt =>
              rw [confirm_of_ok x chain timing req ended]
              unfold settle
              cases settled : store'.confirm hash (rowUpdate receipt) with
              | error fault =>
                  simp only [settled]
                  exact .unsettled entered stays ended settled
              | ok store'' =>
                  simp only [settled]
                  cases judged : receipt.classify req.uid (req.check.getD x.check).flags with
                  | error failure => exact .rejected entered stays ended settled judged
                  | ok _ => exact .confirmed entered stays ended settled judged

structure Ready (estimated nonce : UInt64) (gasPrice : GasPrice) : Prop where
  production : req.production = true
  estimate : chain.estimateGas (addressed req) = .ok estimated
  pending : chain.pendingNonce req.sender = .ok nonce
  price : chain.gasPrice = .ok gasPrice

def outgoing (estimated nonce : UInt64) (gasPrice : GasPrice) : Transaction :=
  priced req (saturatingAdd estimated x.gasBuffer) nonce gasPrice

def outgoingRow (hash : Hash) (estimated nonce : UInt64) (gasPrice : GasPrice) : NewRow :=
  newRow x req hash nonce (saturatingAdd estimated x.gasBuffer) gasPrice

/-- The courses of a send up to its broadcast. -/
inductive Course (store : AuditStore) : SendRun SendOutcome → Prop
  | dry (dry : req.production = false) :
      Course store
        { result := .ok .dryRun
          states := []
          effects := []
          store := store }
  | unestimated {e : Failure} (production : req.production = true)
      (refused : chain.estimateGas (addressed req) = .error e) :
      Course store
        { result := .error (.failed (.gasEstimation req.uid req.method req.func e))
          states := [(.built, .failed)]
          effects := [.ask (.estimateGas (addressed req))]
          store := store }
  | unnumbered {e : Failure} {estimated : UInt64} (production : req.production = true)
      (estimate : chain.estimateGas (addressed req) = .ok estimated)
      (refused : chain.pendingNonce req.sender = .error e) :
      Course store
        { result := .error (.failed (.send req.uid req.method req.func e))
          states := [(.built, .failed)]
          effects := [.ask (.estimateGas (addressed req)), .ask (.pendingNonce req.sender)]
          store := store }
  | unpriced {e : Failure} {estimated nonce : UInt64} (production : req.production = true)
      (estimate : chain.estimateGas (addressed req) = .ok estimated)
      (pending : chain.pendingNonce req.sender = .ok nonce)
      (refused : chain.gasPrice = .error e) :
      Course store
        { result := .error (.failed (.send req.uid req.method req.func e))
          states := [(.built, .failed)]
          effects := [.ask (.estimateGas (addressed req)), .ask (.pendingNonce req.sender),
            .ask .gasPrice]
          store := store }
  | unsent {e : Failure} {estimated nonce : UInt64} {gasPrice : GasPrice}
      (ready : Ready chain req estimated nonce gasPrice)
      (refused : chain.broadcast (outgoing x req estimated nonce gasPrice) = .error e) :
      Course store
        { result := .error (.failed (.send req.uid req.method req.func e))
          states := [(.built, .gasEstimated), (.gasEstimated, .failed)]
          effects := [.ask (.estimateGas (addressed req)), .ask (.pendingNonce req.sender),
            .ask .gasPrice, .ask (.broadcast (outgoing x req estimated nonce gasPrice))]
          store := store }
  | sent {hash : Hash} {estimated nonce : UInt64} {gasPrice : GasPrice}
      {rest : SendRun SendOutcome} (ready : Ready chain req estimated nonce gasPrice)
      (accepted : chain.broadcast (outgoing x req estimated nonce gasPrice) = .ok hash)
      (after : Aftermath x chain timing req hash
        (outgoingRow x req hash estimated nonce gasPrice) store rest) :
      Course store
        { result := rest.result
          states := (.built, .gasEstimated) :: (.gasEstimated, .sent) :: rest.states
          effects := .ask (.estimateGas (addressed req)) :: .ask (.pendingNonce req.sender) ::
            .ask .gasPrice :: .ask (.broadcast (outgoing x req estimated nonce gasPrice)) ::
            rest.effects
          store := rest.store }

theorem course_send (store : AuditStore) :
    Course x chain timing req store (x.send chain timing req store) := by
  unfold send
  cases production : req.production with
  | false => exact .dry production
  | true =>
      simp only [Bool.not_true, Bool.false_eq_true, if_false]
      cases estimate : chain.estimateGas (addressed req) with
      | error e => exact .unestimated production estimate
      | ok estimated =>
          simp only [price]
          cases pending : chain.pendingNonce req.sender with
          | error e => exact .unnumbered production estimate pending
          | ok nonce =>
              cases price : chain.gasPrice with
              | error e => exact .unpriced production estimate pending price
              | ok gasPrice =>
                  have ready : Ready chain req estimated nonce gasPrice :=
                    ⟨production, estimate, pending, price⟩
                  simp only [broadcast]
                  cases broadcast : chain.broadcast (outgoing x req estimated nonce gasPrice) with
                  | error e =>
                      unfold outgoing at broadcast
                      simp only [broadcast]
                      exact .unsent ready broadcast
                  | ok hash =>
                      have after := aftermath_record x chain timing req hash
                        (outgoingRow x req hash estimated nonce gasPrice) store
                      have course := Course.sent ready broadcast after
                      unfold outgoing at broadcast
                      simp only [broadcast]
                      exact course

end SwapDesk.Executor
