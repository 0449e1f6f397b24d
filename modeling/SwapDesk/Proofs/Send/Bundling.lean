import SwapDesk.Proofs.Abi.Parts
import SwapDesk.Proofs.Json.Members
import SwapDesk.Proofs.Send.Correlation
import SwapDesk.Proofs.Send.Steps

namespace SwapDesk

namespace Batch

variable {req : BatchRequest} {c : PreparedCall}

theorem decode?_encode {payloads : List Bytes} (small : (encode payloads).length < 2 ^ 64) :
    decode? (encode payloads) = some payloads := by
  have width : selector.length = 4 := rfl
  have reads (payload rest : Bytes) (short : (Abi.bytes payload).length < 2 ^ 64) :
      Abi.readBytes? (Abi.bytes payload ++ rest) = some (id payload) :=
    Abi.readBytes?_bytes (Nat.lt_of_le_of_lt (Abi.length_bytes payload) short) rest
  have read := Abi.readSingle?_drop_array_map width reads payloads small
  rwa [List.map_id] at read

example : decode? (encode [[], [0xaa, 0xbb], []]) = some [[], [0xaa, 0xbb], []] := by
  decide +kernel

/-- The request is for one transaction that makes all calls of the batch. -/
structure Bundles (req : BatchRequest) (sent : SendRequest) : Prop where
  transaction : ∃ payload, sent.transaction = Transaction.call req.contract payload ∧
    (payload.length < 2 ^ 64 → decode? payload = some (req.calls.map PreparedCall.calldata))
  contexts : sent.context.get? "multicall" = some (.array (req.calls.map PreparedCall.context))
  funcs : sent.context.get? "funcs" = some (.array (req.calls.map fun c => .string c.func))
  func : sent.func = "multicall"
  method : sent.method = req.method
  uid : sent.uid = req.uid
  sender : sent.sender = req.sender
  production : sent.production = req.production
  waitConfirmation : sent.waitConfirmation = req.waitConfirmation
  check : sent.check = req.check

theorem bundles_sendRequest (req : BatchRequest) : Bundles req (sendRequest req) where
  transaction := ⟨_, rfl, decode?_encode⟩
  contexts := by
    rw [sendRequest, context, Json.get?_ofMembers]
    rfl
  funcs := by
    rw [sendRequest, context, Json.get?_ofMembers]
    simp [Json.strings]
  func := rfl
  method := rfl
  uid := rfl
  sender := rfl
  production := rfl
  waitConfirmation := rfl
  check := rfl

theorem stray?_eq_some_iff : stray? req = some c ↔ c.target ≠ req.contract ∧
    ∃ before after, req.calls = before ++ c :: after ∧ ∀ d ∈ before, d.target = req.contract := by
  simp [stray?, List.find?_eq_some_iff_append]

end Batch

namespace Executor

variable {x : Executor} {chain : Chain} {timing : WaitTiming} {req : SendRequest}
  {store : AuditStore} {run : SendRun SendOutcome}

structure Keeps (req : SendRequest) (row : AuditRow) : Prop where
  uid : row.uid = req.uid
  method : row.method = req.method
  func : row.func = req.func
  context : row.context = req.context.render
  sender : row.sender = req.sender
  target : row.target = req.transaction.target?

theorem keeps_of_written {row : AuditRow} {hash : Hash} {nonce gas : UInt64} {gasPrice : GasPrice}
    {id : Nat}
    (written : row.written =
      (AuditStore.rowOf id (newRow x req hash nonce gas gasPrice)).written) : Keeps req row where
  uid := congrArg AuditRow.uid written
  method := congrArg AuditRow.method written
  func := congrArg AuditRow.func written
  context := congrArg AuditRow.context written
  sender := congrArg AuditRow.sender written
  target := congrArg AuditRow.target written

/-- The one transaction of the request is what may have gone out and been recorded. -/
structure Delivers (req : SendRequest) (store : AuditStore) (effects : List SendEffect)
    (left : AuditStore) : Prop where
  once : effects.countP SendEffect.isBroadcast ≤ 1
  broadcast : ∀ t, .ask (.broadcast t) ∈ effects →
    t.destination = req.transaction.destination ∧ t.payload? = req.transaction.payload? ∧
      t.sender = some req.sender
  recorded : ∃ added, left.rows = store.rows ++ added ∧ added.length ≤ 1 ∧
    ∀ row ∈ added, Keeps req row

theorem Course.delivers (course : Course x chain timing req store run) :
    Delivers req store run.effects run.store where
  once := course.carries.once
  broadcast := by
    intro t asked
    obtain ⟨_, _, _, _, _, _, _, _, rfl⟩ := course.carries.broadcast t asked
    exact ⟨rfl, rfl, rfl⟩
  recorded := by
    cases course with
    | dry | unestimated | unnumbered | unpriced | unsent =>
        exact ⟨[], (List.append_nil _).symm, Nat.zero_le 1, nofun⟩
    | sent ready accepted after =>
        obtain ⟨added, appended, _, agrees, written⟩ := after.agrees rfl
        exact ⟨added, appended, agrees.length_le_one, fun row member =>
          keeps_of_written (written row member)⟩

/-- A batch is sent as a whole or not at all. Without calls there is nothing to do. The first call
for another contract stops the batch before anything has been asked or written, in production or
not. Any other batch is the send of one request, from whose payload the calls can be read back in
their order and whose context names them in that order too. -/
theorem sendBatch_whole_or_nothing (x : Executor) (chain : Chain) (timing : WaitTiming)
    (req : BatchRequest) (store : AuditStore) :
    let run := x.sendBatch chain timing req store
    (req.calls = [] → run = ⟨.ok none, [], [], store⟩) ∧
    ((∃ c ∈ req.calls, c.target ≠ req.contract) → ∃ before c after,
      req.calls = before ++ c :: after ∧ (∀ d ∈ before, d.target = req.contract) ∧
      c.target ≠ req.contract ∧
      run = ⟨.error (.failed (.multicall req.uid (Batch.strayReason c req.contract))), [], [],
        store⟩) ∧
    (req.calls ≠ [] → (∀ c ∈ req.calls, c.target = req.contract) → ∃ sent,
      Batch.Bundles req sent ∧ run = (x.send chain timing sent store).map some ∧
      Delivers sent store run.effects run.store) := by
  intro run
  refine ⟨?_, ?_, ?_⟩
  · intro empty
    simp only [run, sendBatch, empty, List.isEmpty_nil, if_true]
  · rintro ⟨c, member, strays⟩
    have filled : req.calls.isEmpty = false := by
      simpa using List.ne_nil_of_mem member
    cases found : Batch.stray? req with
    | none =>
        have together : ∀ c ∈ req.calls, c.target = req.contract := by
          simpa [Batch.stray?] using found
        exact absurd (together c member) strays
    | some first =>
        obtain ⟨strays, before, after, split, fits⟩ := Batch.stray?_eq_some_iff.mp found
        refine ⟨before, first, after, split, fits, strays, ?_⟩
        simp only [run, sendBatch, filled, found, Bool.false_eq_true, if_false]
  · intro filled together
    have sent : run = (x.send chain timing (Batch.sendRequest req) store).map some :=
      sendBatch_of_calls filled together
    have course := course_send x chain timing (Batch.sendRequest req) store
    refine ⟨Batch.sendRequest req, Batch.bundles_sendRequest req, sent, ?_⟩
    rw [sent]
    exact course.delivers

end Executor

end SwapDesk
