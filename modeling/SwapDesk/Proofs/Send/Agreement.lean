import SwapDesk.Proofs.Send.Course
import SwapDesk.Proofs.Send.Depth

namespace SwapDesk

structure AuditRow.Pending (row : AuditRow) : Prop where
  block : row.block = none
  gasUsed : row.gasUsed = none
  status : row.status = none

/-- The row holds what the receipt says, the block included, which the receipt has to name. -/
structure AuditRow.Holds (row : AuditRow) (receipt : Receipt) : Prop where
  mined : ∃ block, receipt.block = some block ∧ row.block = some block
  gasUsed : row.gasUsed = some receipt.gasUsed
  gasPrice : row.gasPrice = receipt.gasPrice
  status : row.status = some receipt.status

namespace Confirmation

variable {policy : ConfirmationPolicy} {script : WaitScript} {hash : Hash} {uid : Uid}

theorem wait_of_instant (instant : policy.pollMs = 0) :
    wait policy script = atStop policy script ∨ (wait policy script).ending = .crashed := by
  unfold wait
  split
  · exact .inl rfl
  · rw [poll, dif_pos instant]
    exact .inr rfl

theorem exists_finds_of_result {receipt : Receipt}
    (returned : (wait policy script).result policy hash uid = .ok receipt) :
    ∃ n, (round policy script n).Finds policy script receipt := by
  rcases Nat.eq_zero_or_pos policy.pollMs with instant | scheduled
  · exfalso
    have ending : (wait policy script).ending = .confirmed receipt := result_eq_ok_iff.mp returned
    rcases wait_of_instant instant with stopped | crashed
    · exact not_confirmed_atStop receipt (stopped ▸ ending)
    · exact nomatch crashed.symm.trans ending
  · obtain ⟨n, first, _⟩ := FirstFind.of_result scheduled returned
    exact ⟨n, first.finds⟩

theorem isSome_block_of_result {receipt : Receipt}
    (returned : (wait policy script).result policy hash uid = .ok receipt) :
    ∃ block, receipt.block = some block := by
  obtain ⟨_, block, _, _, named, _⟩ := exists_finds_of_result returned
  exact ⟨block, named⟩

theorem exists_answer_of_result {receipt : Receipt}
    (returned : (wait policy script).result policy hash uid = .ok receipt) :
    ∃ n, script.receipt n = .ok (some receipt) := by
  obtain ⟨_, _, _, answered, _⟩ := exists_finds_of_result returned
  exact ⟨_, answered⟩

theorem failure_of_result {failure : Failure} {w : Wait}
    (ended : w.result policy hash uid = .error (.failed failure)) :
    failure = .confirmationTimeout uid hash policy.timeoutMs ∨ failure = .cancelled uid hash := by
  unfold Wait.result at ended
  split at ended
  · exact nomatch ended
  · cases ended
    exact .inl rfl
  · cases ended
    exact .inr rfl
  · exact nomatch ended

theorem crashed_of_result {w : Wait} (ended : w.result policy hash uid = .error .crashed) :
    w.ending = .crashed := by
  unfold Wait.result at ended
  split at ended
  · exact nomatch ended
  · exact nomatch ended
  · exact nomatch ended
  · assumption

theorem instant_of_result
    (ended : (wait policy script).result policy hash uid = .error .crashed) :
    policy.pollMs = 0 := by
  by_contra scheduled
  exact not_crashed_wait scheduled (crashed_of_result ended)

end Confirmation

theorem Receipt.classify_eq_ok {receipt : Receipt} {uid : Uid} {flags : Receipt → Bool}
    (judged : receipt.classify uid flags = .ok ()) : receipt.status = true := by
  unfold classify at judged
  split at judged
  · exact nomatch judged
  · rename_i succeeded
    simpa using succeeded

theorem Receipt.classify_eq_error {receipt : Receipt} {uid : Uid} {flags : Receipt → Bool}
    {failure : Failure} (judged : receipt.classify uid flags = .error failure) :
    receipt.status = false ∧ failure = .reverted uid receipt.hash ∨
      receipt.status = true ∧ failure = .loggedError uid receipt.hash := by
  unfold classify at judged
  split at judged
  · rename_i failed
    cases judged
    exact .inl ⟨by simpa using failed, rfl⟩
  · rename_i succeeded
    split at judged
    · cases judged
      exact .inr ⟨by simpa using succeeded, rfl⟩
    · exact nomatch judged

theorem AuditRow.holds_updated {receipt : Receipt} {block : UInt64}
    (named : receipt.block = some block) (row : AuditRow) :
    (AuditStore.updated (Executor.rowUpdate receipt) row).Holds receipt where
  mined := ⟨block, named, by simp [AuditStore.updated, Executor.rowUpdate, named]⟩
  gasUsed := rfl
  gasPrice := rfl
  status := rfl

namespace Executor

variable (x : Executor) (chain : Chain) (timing : WaitTiming) (req : SendRequest)

/-- What a send adds to the store, by its result. -/
inductive Agrees : Except Halt SendOutcome → List AuditRow → Prop
  | dry : Agrees (.ok .dryRun) []
  | unestimated {source : Failure} :
      Agrees (.error (.failed (.gasEstimation req.uid req.method req.func source))) []
  | unsent {source : Failure} :
      Agrees (.error (.failed (.send req.uid req.method req.func source))) []
  | submitted {row : AuditRow} (pending : row.Pending) :
      Agrees (.ok (.submitted row.hash row.id)) [row]
  | confirmed {row : AuditRow} {receipt : Receipt} (holds : row.Holds receipt)
      (succeeded : receipt.status = true) :
      Agrees (.ok (.confirmed row.hash row.id receipt)) [row]
  | reverted {row : AuditRow} {receipt : Receipt}
      (returned : (waitFor x chain timing row.hash).ending = .confirmed receipt)
      (holds : row.Holds receipt) (failed : receipt.status = false) :
      Agrees (.error (.failed (.reverted req.uid receipt.hash))) [row]
  | loggedError {row : AuditRow} {receipt : Receipt}
      (returned : (waitFor x chain timing row.hash).ending = .confirmed receipt)
      (holds : row.Holds receipt) (succeeded : receipt.status = true) :
      Agrees (.error (.failed (.loggedError req.uid receipt.hash))) [row]
  | timedOut {row : AuditRow} (pending : row.Pending) :
      Agrees (.error (.failed (.confirmationTimeout req.uid row.hash x.policy.timeoutMs))) [row]
  | cancelled {row : AuditRow} (pending : row.Pending) :
      Agrees (.error (.failed (.cancelled req.uid row.hash))) [row]
  | unrecorded {hash : Hash} {fault : StoreFault} :
      Agrees (.error (.failed (.persistence req.uid hash fault))) []
  | unsettled {row : AuditRow} {fault : StoreFault} (pending : row.Pending) :
      Agrees (.error (.failed (.persistence req.uid row.hash fault))) [row]
  | crashed {row : AuditRow} (instant : x.policy.pollMs = 0) (pending : row.Pending) :
      Agrees (.error .crashed) [row]

variable {x chain timing req} {store : AuditStore} {hash : Hash} {row : NewRow}
variable {run : SendRun SendOutcome}

theorem Agrees.length_le_one {result : Except Halt SendOutcome} {added : List AuditRow}
    (agrees : Agrees x chain timing req result added) : added.length ≤ 1 := by
  cases agrees <;> simp

theorem Aftermath.agrees (after : Aftermath x chain timing req hash row store run)
    (sameHash : row.hash = hash) :
    ∃ added, run.store.rows = store.rows ++ added ∧ (added = [] → run.store = store) ∧
      Agrees x chain timing req run.result added ∧
      ∀ entry ∈ added, entry.written = (AuditStore.rowOf store.nextId row).written := by
  subst sameHash
  have pending : (AuditStore.rowOf store.nextId row).Pending := ⟨rfl, rfl, rfl⟩
  cases after with
  | unrecorded => exact ⟨[], (List.append_nil _).symm, fun _ => rfl, .unrecorded, nofun⟩
  | submitted entered =>
      obtain ⟨rfl, rfl, _⟩ := AuditStore.save_eq_ok entered
      refine ⟨_, rfl, nofun, ?_, List.forall_mem_singleton.mpr rfl⟩
      exact .submitted pending
  | interrupted entered _ ended =>
      obtain ⟨rfl, rfl, _⟩ := AuditStore.save_eq_ok entered
      refine ⟨_, rfl, nofun, ?_, List.forall_mem_singleton.mpr rfl⟩
      rcases Confirmation.failure_of_result ended with rfl | rfl
      · exact .timedOut pending
      · exact .cancelled pending
  | crashed entered _ ended =>
      obtain ⟨rfl, rfl, _⟩ := AuditStore.save_eq_ok entered
      have instant := Confirmation.instant_of_result ended
      refine ⟨_, rfl, nofun, ?_, List.forall_mem_singleton.mpr rfl⟩
      exact .crashed instant pending
  | unsettled entered =>
      obtain ⟨rfl, rfl, _⟩ := AuditStore.save_eq_ok entered
      refine ⟨_, rfl, nofun, ?_, List.forall_mem_singleton.mpr rfl⟩
      exact .unsettled pending
  | rejected entered _ ended settled judged =>
      obtain ⟨rfl, rfl, fresh⟩ := AuditStore.save_eq_ok entered
      obtain ⟨block, named⟩ := Confirmation.isSome_block_of_result ended
      have returned := Confirmation.result_eq_ok_iff.mp ended
      have holds := AuditRow.holds_updated named (AuditStore.rowOf store.nextId row)
      refine ⟨_, AuditStore.rows_of_confirm_append fresh settled, nofun, ?_,
        List.forall_mem_singleton.mpr rfl⟩
      rcases Receipt.classify_eq_error judged with ⟨failed, rfl⟩ | ⟨succeeded, rfl⟩
      · exact .reverted returned holds failed
      · exact .loggedError returned holds succeeded
  | confirmed entered _ ended settled judged =>
      obtain ⟨rfl, rfl, fresh⟩ := AuditStore.save_eq_ok entered
      obtain ⟨block, named⟩ := Confirmation.isSome_block_of_result ended
      have holds := AuditRow.holds_updated named (AuditStore.rowOf store.nextId row)
      refine ⟨_, AuditStore.rows_of_confirm_append fresh settled, nofun, ?_,
        List.forall_mem_singleton.mpr rfl⟩
      exact .confirmed holds (Receipt.classify_eq_ok judged)

structure OwnRow (chain : Chain) (req : SendRequest) (run : SendRun SendOutcome) (row : AuditRow) :
    Prop where
  uid : row.uid = req.uid
  broadcast : ∃ t, .ask (.broadcast t) ∈ run.effects ∧ chain.broadcast t = .ok row.hash ∧
    t.nonce = some row.nonce ∧ t.gas = some row.gasLimit

theorem ownRow_of_written {estimated nonce : UInt64} {gasPrice : GasPrice} {id : Nat}
    {entry : AuditRow}
    (asked : .ask (.broadcast (outgoing x req estimated nonce gasPrice)) ∈ run.effects)
    (accepted : chain.broadcast (outgoing x req estimated nonce gasPrice) = .ok hash)
    (written : entry.written =
      (AuditStore.rowOf id (outgoingRow x req hash estimated nonce gasPrice)).written) :
    OwnRow chain req run entry := by
  have sameHash : entry.hash = hash := congrArg AuditRow.hash written
  have sameNonce : entry.nonce = nonce := congrArg AuditRow.nonce written
  have sameGas : entry.gasLimit = saturatingAdd estimated x.gasBuffer :=
    congrArg AuditRow.gasLimit written
  refine ⟨congrArg AuditRow.uid written, _, asked, ?_, ?_, ?_⟩
  · rw [sameHash, accepted]
  · rw [sameNonce]
    rfl
  · rw [sameGas]
    rfl

theorem Course.exists_added (course : Course x chain timing req store run) :
    ∃ added, run.store.rows = store.rows ++ added ∧ ∀ row ∈ added, OwnRow chain req run row := by
  cases course with
  | dry | unestimated | unnumbered | unpriced | unsent =>
      exact ⟨[], (List.append_nil _).symm, nofun⟩
  | sent ready accepted after =>
      obtain ⟨added, appended, _, _, written⟩ := after.agrees rfl
      refine ⟨added, appended, fun row member => ?_⟩
      exact ownRow_of_written (by simp) accepted (written row member)

/-- A send appends at most one row to the store and changes none of the rows that were there. Its
result says whether there is a new row, and what that row holds; with no new row the store is the
one before. -/
theorem result_agrees_with_rows (x : Executor) (chain : Chain) (timing : WaitTiming)
    (req : SendRequest) (store : AuditStore) :
    let run := x.send chain timing req store
    ∃ added, run.store.rows = store.rows ++ added ∧ added.length ≤ 1 ∧
      (added = [] → run.store = store) ∧
      (∀ row ∈ added, OwnRow chain req run row) ∧
      Agrees x chain timing req run.result added := by
  intro run
  have course : Course x chain timing req store run := course_send x chain timing req store
  have nothing : store.rows = store.rows ++ [] := (List.append_nil _).symm
  generalize run = run at course
  cases course with
  | dry => exact ⟨[], nothing, Nat.zero_le 1, fun _ => rfl, nofun, .dry⟩
  | unestimated => exact ⟨[], nothing, Nat.zero_le 1, fun _ => rfl, nofun, .unestimated⟩
  | unnumbered | unpriced | unsent => exact ⟨[], nothing, Nat.zero_le 1, fun _ => rfl, nofun, .unsent⟩
  | @sent hash estimated nonce gasPrice rest ready accepted after =>
      obtain ⟨added, appended, unchanged, agrees, written⟩ := after.agrees rfl
      refine ⟨added, appended, agrees.length_le_one, unchanged, ?_, agrees⟩
      exact fun row member => ownRow_of_written (by simp) accepted (written row member)

end Executor

end SwapDesk
