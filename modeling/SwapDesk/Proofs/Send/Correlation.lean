import SwapDesk.Endpoint.Client
import SwapDesk.Proofs.Send.Agreement
import SwapDesk.Proofs.Send.Steps
import SwapDesk.Send.Batch

namespace SwapDesk

def ChainCall.Refused (chain : Chain) : ChainCall → Failure → Prop
  | .head, cause => ∃ n, chain.head n = .error cause
  | .call t block, cause => chain.call t block = .error cause
  | .estimateGas t, cause => chain.estimateGas t = .error cause
  | .pendingNonce account, cause => chain.pendingNonce account = .error cause
  | .gasPrice, cause => chain.gasPrice = .error cause
  | .broadcast t, cause => chain.broadcast t = .error cause
  | .receipt hash, cause => ∃ n, chain.receipt hash n = .error cause

/-- A receipt is the one of the transaction that it was asked for. -/
def Chain.Echoes (chain : Chain) : Prop :=
  ∀ hash n receipt, chain.receipt hash n = .ok (some receipt) → receipt.hash = hash

def Unsent (chain : Chain) (effects : List SendEffect) : Prop :=
  ∀ t hash, .ask (.broadcast t) ∈ effects → chain.broadcast t ≠ .ok hash

/-- A failure can be traced to its operation, to the transaction once there is one, and to what the
chain has said. -/
structure Correlated (chain : Chain) (uid : Uid) (effects : List SendEffect) (e : Failure) :
    Prop where
  uid : e.uid? = some uid
  unsent : Unsent chain effects → e.hash? = none
  sent : ∀ t hash, .ask (.broadcast t) ∈ effects → chain.broadcast t = .ok hash →
    e.hash? = some hash
  source : ∀ call cause, .ask call ∈ effects → call.Refused chain cause → e.source? = some cause

theorem Answer.hash_of_receipt? {hash : Hash} {j : Json} {receipt : Receipt}
    (read : Answer.receipt? hash j = some receipt) : receipt.hash = hash := by
  simp only [Answer.receipt?, Option.bind_eq_bind, Option.bind_eq_some_iff, Option.pure_def,
    Option.some.injEq] at read
  grind

theorem Answer.some_of_nullable? {α : Type} {read : Json → Option α} {j : Json} {value : α}
    (given : Answer.nullable? read j = some (some value)) : read j = some value := by
  unfold Answer.nullable? at given
  split at given
  · exact nomatch given
  · simpa using given

namespace RpcClient

theorem ask_eq_ok {α : Type} {c : RpcClient} {request : RpcRequest} {before : Nat}
    {decode : Json → Option α} {value : α} (answered : c.ask request before decode = .ok value) :
    ∃ j, decode j = some value := by
  unfold ask at answered
  split at answered
  · rename_i found decoded
    cases answered
    cases reply : c.endpoint request before with
    | failure =>
        rw [reply] at decoded
        exact nomatch decoded
    | result j =>
        rw [reply] at decoded
        exact ⟨j, decoded⟩
  · exact nomatch answered

/-- The hash of a receipt is not read from the answer; it is the one in the question. -/
theorem echoes (c : RpcClient) : c.chain.Echoes := by
  intro hash n receipt answered
  obtain ⟨j, decoded⟩ := ask_eq_ok answered
  exact Answer.hash_of_receipt? (Answer.some_of_nullable? decoded)

end RpcClient

namespace Executor

variable {x : Executor} {chain : Chain} {timing : WaitTiming} {req : SendRequest}
  {store : AuditStore} {hash : Hash} {row : NewRow} {run : SendRun SendOutcome}
  {call : ChainCall} {cause e : Failure}

structure StoppedBy (req : SendRequest) (store : AuditStore) (run : SendRun SendOutcome)
    (cause : Failure) : Prop where
  reports : run.result = .error (.failed (.gasEstimation req.uid req.method req.func cause)) ∨
    run.result = .error (.failed (.send req.uid req.method req.func cause))
  unchanged : run.store = store

theorem Ready.broadcast_refused {estimated nonce : UInt64} {gasPrice : GasPrice} {t : Transaction}
    (ready : Ready chain req estimated nonce gasPrice)
    (asked : call = .estimateGas (addressed req) ∨ call = .pendingNonce req.sender ∨
      call = .gasPrice ∨ call = .broadcast t)
    (refused : call.Refused chain cause) : chain.broadcast t = .error cause := by
  rcases asked with rfl | rfl | rfl | rfl
  · exact nomatch ready.estimate.symm.trans refused
  · exact nomatch ready.pending.symm.trans refused
  · exact nomatch ready.price.symm.trans refused
  · exact refused

theorem Course.stoppedBy (course : Course x chain timing req store run)
    (asked : .ask call ∈ run.effects) (refused : call.Refused chain cause) :
    StoppedBy req store run cause := by
  cases course with
  | dry => simp at asked
  | unestimated _ unanswered =>
      obtain rfl : call = .estimateGas (addressed req) := by simpa using asked
      cases unanswered.symm.trans refused
      exact ⟨.inl rfl, rfl⟩
  | unnumbered _ estimate unanswered =>
      obtain rfl | rfl : call = .estimateGas (addressed req) ∨ call = .pendingNonce req.sender := by
        simpa using asked
      · exact nomatch estimate.symm.trans refused
      · cases unanswered.symm.trans refused
        exact ⟨.inr rfl, rfl⟩
  | unpriced _ estimate pending unanswered =>
      obtain rfl | rfl | rfl : call = .estimateGas (addressed req) ∨
          call = .pendingNonce req.sender ∨ call = .gasPrice := by
        simpa using asked
      · exact nomatch estimate.symm.trans refused
      · exact nomatch pending.symm.trans refused
      · cases unanswered.symm.trans refused
        exact ⟨.inr rfl, rfl⟩
  | unsent ready unanswered =>
      cases unanswered.symm.trans (ready.broadcast_refused (by simpa using asked) refused)
      exact ⟨.inr rfl, rfl⟩
  | sent ready accepted after =>
      have unanswered := ready.broadcast_refused (by simpa [after.not_mem_ask] using asked) refused
      exact nomatch accepted.symm.trans unanswered

theorem Course.exists_refused (course : Course x chain timing req store run)
    (failed : run.result = .error (.failed e)) (unsent : Unsent chain run.effects) :
    ∃ call cause, .ask call ∈ run.effects ∧ call.Refused chain cause := by
  cases course with
  | dry => exact nomatch failed
  | unestimated _ refused => exact ⟨.estimateGas _, _, by simp, refused⟩
  | unnumbered _ _ refused => exact ⟨.pendingNonce _, _, by simp, refused⟩
  | unpriced _ _ _ refused => exact ⟨.gasPrice, _, by simp, refused⟩
  | unsent _ refused => exact ⟨.broadcast _, _, by simp, refused⟩
  | sent _ accepted => exact absurd accepted (unsent _ _ (by simp))

theorem Course.stoppedBy_of_unsent (course : Course x chain timing req store run)
    (failed : run.result = .error (.failed e)) (unsent : Unsent chain run.effects) :
    ∃ call cause, .ask call ∈ run.effects ∧ call.Refused chain cause ∧
      StoppedBy req store run cause := by
  obtain ⟨call, cause, asked, refused⟩ := course.exists_refused failed unsent
  exact ⟨call, cause, asked, refused, course.stoppedBy asked refused⟩

theorem StoppedBy.tells (stopped : StoppedBy req store run cause)
    (failed : run.result = .error (.failed e)) :
    e.uid? = some req.uid ∧ e.hash? = none ∧ e.source? = some cause := by
  rcases stopped.reports with reports | reports
  · cases reports.symm.trans failed
    exact ⟨rfl, rfl, rfl⟩
  · cases reports.symm.trans failed
    exact ⟨rfl, rfl, rfl⟩

theorem exists_sent {effects : List SendEffect} (out : ¬ Unsent chain effects) :
    ∃ t hash, .ask (.broadcast t) ∈ effects ∧ chain.broadcast t = .ok hash := by
  simpa [Unsent] using out

theorem Aftermath.tells (echoes : chain.Echoes)
    (after : Aftermath x chain timing req hash row store run)
    (failed : run.result = .error (.failed e)) :
    e.uid? = some req.uid ∧ e.hash? = some hash := by
  cases after with
  | submitted | crashed | confirmed => simp at failed
  | unrecorded | unsettled =>
      cases failed
      exact ⟨rfl, rfl⟩
  | interrupted _ _ ended =>
      cases failed
      rcases Confirmation.failure_of_result ended with rfl | rfl
      · exact ⟨rfl, rfl⟩
      · exact ⟨rfl, rfl⟩
  | rejected _ _ ended _ judged =>
      cases failed
      obtain ⟨n, answered⟩ := Confirmation.exists_answer_of_result ended
      have same := echoes _ _ _ answered
      rcases Receipt.classify_eq_error judged with ⟨_, rfl⟩ | ⟨_, rfl⟩
      · exact ⟨rfl, congrArg some same⟩
      · exact ⟨rfl, congrArg some same⟩

theorem Course.correlated (echoes : chain.Echoes)
    (course : Course x chain timing req store run)
    (failed : run.result = .error (.failed e)) : Correlated chain req.uid run.effects e where
  uid := by
    by_cases unsent : Unsent chain run.effects
    · obtain ⟨_, _, _, _, stopped⟩ := course.stoppedBy_of_unsent failed unsent
      exact (stopped.tells failed).1
    · obtain ⟨t, hash, asked, accepted⟩ := exists_sent unsent
      obtain ⟨_, _, _, _, _, rest, after, result, _⟩ := course.of_broadcast asked accepted
      exact (after.tells echoes (result.symm.trans failed)).1
  unsent := by
    intro unsent
    obtain ⟨_, _, _, _, stopped⟩ := course.stoppedBy_of_unsent failed unsent
    exact (stopped.tells failed).2.1
  sent := by
    intro t hash asked accepted
    obtain ⟨_, _, _, _, _, rest, after, result, _⟩ := course.of_broadcast asked accepted
    exact (after.tells echoes (result.symm.trans failed)).2
  source := by
    intro call cause asked refused
    exact ((course.stoppedBy asked refused).tells failed).2.2

theorem sendBatch_of_calls {req : BatchRequest} (filled : req.calls ≠ [])
    (together : ∀ c ∈ req.calls, c.target = req.contract) :
    x.sendBatch chain timing req store =
      (x.send chain timing (Batch.sendRequest req) store).map Option.some := by
  have nonempty : req.calls.isEmpty = false := by simpa using filled
  have none : Batch.stray? req = none := by simpa [Batch.stray?] using together
  simp only [sendBatch, nonempty, none, Bool.false_eq_true, if_false]

/-- If receipts carry the hash that they were asked for, every failure of a send carries the uid of
the request, and the hash of the transaction exactly if one is out; and what the chain has refused
is its source. The same holds of a batch that comes to be sent. -/
theorem correlated_of_send (echoes : chain.Echoes) (x : Executor) (timing : WaitTiming)
    (store : AuditStore) :
    (∀ req e, (x.send chain timing req store).result = .error (.failed e) →
      Correlated chain req.uid (x.send chain timing req store).effects e) ∧
    ∀ req : BatchRequest, req.calls ≠ [] → (∀ c ∈ req.calls, c.target = req.contract) →
      ∀ e, (x.sendBatch chain timing req store).result = .error (.failed e) →
        Correlated chain req.uid (x.sendBatch chain timing req store).effects e := by
  constructor
  · intro req e failed
    exact (course_send x chain timing req store).correlated echoes failed
  · intro req filled together e failed
    rw [sendBatch_of_calls filled together] at failed ⊢
    have sent : (x.send chain timing (Batch.sendRequest req) store).result =
        .error (.failed e) :=
      Checked.map_eq_error_iff.mp failed
    exact (course_send x chain timing (Batch.sendRequest req) store).correlated echoes sent

end Executor

namespace Sample

def reverting : Chain :=
  { node 4 with
    head := fun _ => .ok 20
    receipt := fun hash _ => .ok (some { receipt 10 with hash := hash, status := false }) }

def awaited : SendRequest :=
  { order with waitConfirmation := true }

theorem echoes_reverting : reverting.Echoes := by
  intro hash n receipt answered
  cases answered
  rfl

end Sample

namespace Executor

theorem correlated_of_send_reverted :
    let run := Sample.executor.send Sample.reverting {} Sample.awaited {}
    Sample.reverting.Echoes ∧ run.result = .error (.failed (.reverted "run" ⟨1⟩)) ∧
      Correlated Sample.reverting "run" run.effects (.reverted "run" ⟨1⟩) := by
  intro run
  have failed : run.result = .error (.failed (.reverted "run" ⟨1⟩)) := by decide +kernel
  refine ⟨Sample.echoes_reverting, failed, ?_⟩
  exact (correlated_of_send Sample.echoes_reverting Sample.executor {} {}).1 _ _ failed

end Executor

end SwapDesk
