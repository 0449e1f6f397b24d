import SwapDesk.Proofs.Sample
import SwapDesk.Proofs.Send.Course

/-!
Whether a broadcast leaves its row behind. The row is checked against its columns only after the
transaction is out, so a broadcast is recorded exactly when its integers fit.
-/

namespace SwapDesk

namespace Executor

variable {x : Executor} {chain : Chain} {timing : WaitTiming} {req : SendRequest}
variable {store : AuditStore} {hash : Hash} {row : NewRow} {run : SendRun SendOutcome}

theorem Aftermath.not_mem_ask (after : Aftermath x chain timing req hash row store run)
    (call : ChainCall) : .ask call ∉ run.effects := by
  cases after <;> simp

theorem Course.of_asked {t : Transaction} (course : Course x chain timing req store run)
    (asked : .ask (.broadcast t) ∈ run.effects) :
    ∃ estimated nonce gasPrice, Ready chain req estimated nonce gasPrice ∧
      t = outgoing x req estimated nonce gasPrice ∧
      ∀ hash, chain.broadcast t = .ok hash →
        ∃ rest, Aftermath x chain timing req hash (outgoingRow x req hash estimated nonce gasPrice)
          store rest ∧ run.result = rest.result ∧ run.store = rest.store := by
  cases course with
  | dry | unestimated | unnumbered | unpriced => simp at asked
  | @unsent _ estimated nonce gasPrice ready refused =>
      have same : t = outgoing x req estimated nonce gasPrice := by simpa using asked
      refine ⟨estimated, nonce, gasPrice, ready, same, ?_⟩
      intro hash accepted
      rw [same, refused] at accepted
      exact nomatch accepted
  | @sent _ estimated nonce gasPrice rest ready sent after =>
      have same : t = outgoing x req estimated nonce gasPrice := by
        simpa [after.not_mem_ask] using asked
      refine ⟨estimated, nonce, gasPrice, ready, same, ?_⟩
      intro hash accepted
      rw [same, sent] at accepted
      cases accepted
      exact ⟨rest, after, rfl, rfl⟩

theorem Course.of_broadcast {t : Transaction} (course : Course x chain timing req store run)
    (asked : .ask (.broadcast t) ∈ run.effects) (accepted : chain.broadcast t = .ok hash) :
    ∃ estimated nonce gasPrice, Ready chain req estimated nonce gasPrice ∧
      t = outgoing x req estimated nonce gasPrice ∧
      ∃ rest, Aftermath x chain timing req hash (outgoingRow x req hash estimated nonce gasPrice)
        store rest ∧ run.result = rest.result ∧ run.store = rest.store := by
  obtain ⟨estimated, nonce, gasPrice, ready, same, onward⟩ := course.of_asked asked
  exact ⟨estimated, nonce, gasPrice, ready, same, onward hash accepted⟩

theorem Aftermath.records (after : Aftermath x chain timing req hash row store run)
    (storable : row.Storable) (fresh : store.withHash row.hash = []) : run.store.Records row := by
  have entry := AuditStore.save_of_storable storable fresh
  have appended := AuditStore.records_append store.nextId fresh
  cases after with
  | unrecorded refused => exact nomatch entry.symm.trans refused
  | submitted entered | interrupted entered | crashed entered | unsettled entered =>
      cases entry.symm.trans entered
      exact appended
  | rejected entered _ _ settled | confirmed entered _ _ settled =>
      cases entry.symm.trans entered
      exact appended.confirm settled

theorem Aftermath.of_not_storable (after : Aftermath x chain timing req hash row store run)
    (excessive : ¬ row.Storable) :
    run.store = store ∧ ∃ field value,
      run.result = .error (.failed (.persistence req.uid hash (.outOfRange field value))) := by
  obtain ⟨column, _, _, refusal⟩ := AuditStore.save_of_not_storable store excessive
  cases after with
  | unrecorded refused =>
      cases refusal.symm.trans refused
      exact ⟨rfl, column.1, column.2, rfl⟩
  | submitted entered | interrupted entered | crashed entered | unsettled entered
  | rejected entered | confirmed entered => exact nomatch refusal.symm.trans entered

theorem storable_outgoingRow_iff {estimated nonce : UInt64} {gasPrice : GasPrice} :
    (outgoingRow x req hash estimated nonce gasPrice).Storable ↔
      x.chainId.toNat < 2 ^ 63 ∧ nonce.toNat < 2 ^ 63 ∧
        estimated.toNat + x.gasBuffer.toNat < 2 ^ 63 := by
  have limit : (saturatingAdd estimated x.gasBuffer).toNat < 2 ^ 63 ↔
      estimated.toNat + x.gasBuffer.toNat < 2 ^ 63 := by
    rw [toNat_saturatingAdd]
    omega
  rw [← limit]
  constructor
  · rintro ⟨chain, nonce, gasLimit⟩
    exact ⟨chain, nonce, gasLimit⟩
  · rintro ⟨chain, nonce, gasLimit⟩
    exact ⟨chain, nonce, gasLimit⟩

/-- An accepted broadcast with a new hash is recorded exactly when the id of the chain, the nonce
and the gas limit fit in 63 bits. Otherwise the transaction is out and the store does not know. -/
theorem records_iff_of_broadcast {t : Transaction}
    (asked : .ask (.broadcast t) ∈ (x.send chain timing req store).effects)
    (accepted : chain.broadcast t = .ok hash) (fresh : store.withHash hash = []) :
    ∃ estimated nonce gasPrice, Ready chain req estimated nonce gasPrice ∧
      t = outgoing x req estimated nonce gasPrice ∧
      let left := (x.send chain timing req store).store
      let row := outgoingRow x req hash estimated nonce gasPrice
      (left.Records row ↔
        x.chainId.toNat < 2 ^ 63 ∧ nonce.toNat < 2 ^ 63 ∧
          estimated.toNat + x.gasBuffer.toNat < 2 ^ 63) ∧
      (left.Records row ∨ left = store ∧ ∃ field value,
        (x.send chain timing req store).result =
          .error (.failed (.persistence req.uid hash (.outOfRange field value)))) := by
  obtain ⟨estimated, nonce, gasPrice, ready, same, rest, after, result, sameStore⟩ :=
    (course_send x chain timing req store).of_broadcast asked accepted
  refine ⟨estimated, nonce, gasPrice, ready, same, ?_⟩
  intro left row
  change left = rest.store at sameStore
  rw [← storable_outgoingRow_iff, result, sameStore]
  change (_ ↔ row.Storable) ∧ _
  by_cases storable : row.Storable
  · have records : rest.store.Records row := after.records storable fresh
    exact ⟨iff_of_true records storable, .inl records⟩
  · have unchanged := after.of_not_storable storable
    refine ⟨iff_of_false ?_ storable, .inr unchanged⟩
    rintro ⟨saved, only, _⟩
    rw [unchanged.1] at only
    exact nomatch only.symm.trans fresh

end Executor

namespace Sample

def transaction (nonce : UInt64) : Transaction :=
  executor.outgoing order 21000 nonce 3

theorem asked (nonce : UInt64) :
    .ask (.broadcast (transaction nonce)) ∈ (executor.send (node nonce) {} order {}).effects :=
  .tail _ (.tail _ (.tail _ (.head _)))

end Sample

namespace Executor

theorem records_iff_of_broadcast_order :
    (Sample.executor.send (Sample.node 4) {} Sample.order {}).store.Records
      (Sample.executor.outgoingRow Sample.order ⟨1⟩ 21000 4 3) := by
  obtain ⟨estimated, nonce, gasPrice, ready, _, records, _⟩ :=
    records_iff_of_broadcast (Sample.asked 4) rfl rfl
  cases ready.estimate
  cases ready.pending
  cases ready.price
  exact records.mpr (by decide)

/-- A nonce that does not fit is broadcast, but no row with its hash is left. -/
theorem not_recorded_of_huge_nonce :
    ¬ ∀ (x : Executor) (chain : Chain) (timing : WaitTiming) (req : SendRequest)
      (store : AuditStore) (t : Transaction) (hash : Hash),
      .ask (.broadcast t) ∈ (x.send chain timing req store).effects →
      chain.broadcast t = .ok hash → store.withHash hash = [] →
      ∃ row, (x.send chain timing req store).store.withHash hash = [row] ∧
        row.uid = req.uid ∧ t.nonce = some row.nonce ∧ t.gas = some row.gasLimit := by
  intro always
  obtain ⟨row, only, _⟩ := always Sample.executor (Sample.node (2 ^ 63)) {} Sample.order {}
    (Sample.transaction (2 ^ 63)) ⟨1⟩ (Sample.asked (2 ^ 63)) rfl rfl
  have none : (Sample.executor.send (Sample.node (2 ^ 63)) {} Sample.order {}).store.withHash ⟨1⟩ =
      [] := by
    decide +kernel
  exact nomatch only.symm.trans none

end Executor

end SwapDesk
