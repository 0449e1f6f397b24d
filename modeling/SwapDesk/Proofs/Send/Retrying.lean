import SwapDesk.Proofs.Send.Correlation

namespace SwapDesk

namespace Failure

def underSends : Failure → Failure
  | .send _ _ _ source => source.underSends
  | e => e

/-- The failures of a send after which the chain or the store has to be looked at. -/
inductive Final : Failure → Prop
  | gasEstimation {uid : Uid} {method func : String} {source : Failure} :
      Final (.gasEstimation uid method func source)
  | reverted {uid : Uid} {hash : Hash} : Final (.reverted uid hash)
  | loggedError {uid : Uid} {hash : Hash} : Final (.loggedError uid hash)
  | persistence {uid : Uid} {hash : Hash} {fault : StoreFault} : Final (.persistence uid hash fault)

theorem retrySafe_underSends (e : Failure) : e.underSends.retrySafe = e.retrySafe := by
  induction e with
  | send uid method func source ih => exact ih
  | _ => rfl

theorem underSends_ne_send (e : Failure) (uid : Uid) (method func : String) (source : Failure) :
    e.underSends ≠ .send uid method func source := by
  induction e with
  | send _ _ _ inner ih => exact ih
  | _ => exact nofun

theorem Final.not_retrySafe {e : Failure} (final : e.Final) : e.retrySafe = false := by
  cases final <;> rfl

end Failure

namespace Executor

variable {x : Executor} {chain : Chain} {timing : WaitTiming} {req : SendRequest}
  {store : AuditStore} {hash : Hash} {row : NewRow} {run : SendRun SendOutcome}
  {e : Failure}

/-- The wait for a transaction has ended without a verdict on it. -/
inductive Undecided (x : Executor) (req : SendRequest) (hash : Hash) : Failure → Prop
  | timedOut : Undecided x req hash (.confirmationTimeout req.uid hash x.policy.timeoutMs)
  | cancelled : Undecided x req hash (.cancelled req.uid hash)

def LeavesOpen (chain : Chain) (req : SendRequest) (store : AuditStore)
    (run : SendRun SendOutcome) (hash : Hash) : Prop :=
  ∃ row, run.store.rows = store.rows ++ [row] ∧ row.hash = hash ∧ row.Pending ∧
    OwnRow chain req run row

theorem Aftermath.undecided_or_final
    (after : Aftermath x chain timing req hash row store run)
    (failed : run.result = .error (.failed e)) :
    (Undecided x req hash e ∧ ∃ saved, store.save row = .ok (saved, run.store)) ∨ e.Final := by
  cases after with
  | submitted | crashed | confirmed => simp at failed
  | unrecorded | unsettled =>
      cases failed
      exact .inr .persistence
  | interrupted entered _ ended =>
      cases failed
      rcases Confirmation.failure_of_result ended with rfl | rfl
      · exact .inl ⟨.timedOut, _, entered⟩
      · exact .inl ⟨.cancelled, _, entered⟩
  | rejected _ _ _ _ judged =>
      cases failed
      rcases Receipt.classify_eq_error judged with ⟨_, rfl⟩ | ⟨_, rfl⟩
      · exact .inr .reverted
      · exact .inr .loggedError

theorem Course.undecided_or_final {t : Transaction}
    (course : Course x chain timing req store run)
    (failed : run.result = .error (.failed e))
    (asked : .ask (.broadcast t) ∈ run.effects) (accepted : chain.broadcast t = .ok hash) :
    (Undecided x req hash e ∧ LeavesOpen chain req store run hash) ∨ e.Final := by
  obtain ⟨estimated, nonce, gasPrice, _, same, rest, after, result, sameStore⟩ :=
    course.of_broadcast asked accepted
  rcases after.undecided_or_final (result.symm.trans failed) with ⟨undecided, saved, entered⟩ | final
  · obtain ⟨rfl, appended, _⟩ := AuditStore.save_eq_ok entered
    let row := AuditStore.rowOf store.nextId (outgoingRow x req hash estimated nonce gasPrice)
    have own : OwnRow chain req run row := by
      subst same
      exact ⟨rfl, _, asked, accepted, rfl, rfl⟩
    refine .inl ⟨undecided, row, ?_, rfl, ⟨rfl, rfl, rfl⟩, own⟩
    rw [sameStore, appended]
  · exact .inr final

theorem Course.cause_refused {uid : Uid} {method func : String} {cause : Failure}
    (course : Course x chain timing req store run)
    (failed : run.result = .error (.failed (.send uid method func cause))) :
    ∃ call, .ask call ∈ run.effects ∧ call.Refused chain cause := by
  by_cases unsent : Unsent chain run.effects
  · obtain ⟨call, why, asked, refused, stopped⟩ := course.stoppedBy_of_unsent failed unsent
    cases (stopped.tells failed).2.2
    exact ⟨call, asked, refused⟩
  · obtain ⟨t, hash, asked, accepted⟩ := exists_sent unsent
    rcases course.undecided_or_final failed asked accepted with ⟨undecided, _⟩ | final
    · exact nomatch undecided
    · exact nomatch final

/-- A failure that is safe to retry comes from a send that had nothing accepted and left the store
as it was, or from a wait without a verdict, with the row of the transaction still open. A final
failure is never safe to retry. A send that has been refused an answer is so exactly when what the
chain has said is, under any wrappers. -/
theorem retrySafe_of_send (x : Executor) (chain : Chain) (timing : WaitTiming) (req : SendRequest)
    (store : AuditStore) :
    let run := x.send chain timing req store
    (∀ e, run.result = .error (.failed e) → e.retrySafe = true →
      Unsent chain run.effects ∧ run.store = store ∨
        ∃ hash, Undecided x req hash e ∧ LeavesOpen chain req store run hash) ∧
    (∀ e : Failure, e.Final → e.retrySafe = false) ∧
    ∀ uid method func cause,
      run.result = .error (.failed (.send uid method func cause)) →
        (∃ call, .ask call ∈ run.effects ∧ call.Refused chain cause) ∧
        (∀ uid method func source, cause.underSends ≠ .send uid method func source) ∧
        (Failure.send uid method func cause).retrySafe = cause.underSends.retrySafe := by
  intro run
  have course : Course x chain timing req store run := course_send x chain timing req store
  refine ⟨?_, fun e final => final.not_retrySafe, ?_⟩
  · intro e failed safe
    by_cases unsent : Unsent chain run.effects
    · obtain ⟨_, _, _, _, stopped⟩ := course.stoppedBy_of_unsent failed unsent
      exact .inl ⟨unsent, stopped.unchanged⟩
    · obtain ⟨t, hash, asked, accepted⟩ := exists_sent unsent
      rcases course.undecided_or_final failed asked accepted with decided | final
      · exact .inr ⟨hash, decided⟩
      · exact nomatch safe.symm.trans final.not_retrySafe
  · intro uid method func cause failed
    exact ⟨course.cause_refused failed, cause.underSends_ne_send,
      (Failure.retrySafe_underSends (.send uid method func cause)).symm⟩

end Executor

end SwapDesk
