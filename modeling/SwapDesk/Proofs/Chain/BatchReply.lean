import SwapDesk.Proofs.Chain.BatchCall
import SwapDesk.Proofs.Checked

namespace SwapDesk.BatchRead

theorem run_of_ne_nil {chain : Chain} {contract : Address} {calls : List SubCall}
    {block : UInt64} {uid : Uid} (asking : calls ≠ []) :
    run chain contract calls block uid =
      ⟨(answers calls.length block (chain.call (transaction contract calls) block)).mapError
          fun fault => .multicall uid fault.message,
        [.call (transaction contract calls) block]⟩ := by
  rw [run, if_neg (by simpa using asking)]

theorem exists_reply {count : Nat} {block : UInt64} {reply : Except Failure Bytes}
    {found : List (Option Bytes)} (answered : answers count block reply = .ok found) :
    ∃ bytes, reply = .ok bytes := by
  cases reply with
  | error e => exact nomatch answered
  | ok bytes => exact ⟨bytes, rfl⟩

theorem length_of_answers {count : Nat} {block : UInt64} {reply : Except Failure Bytes}
    {found : List (Option Bytes)} (answered : answers count block reply = .ok found) :
    found.length = count := by
  unfold answers at answered
  split at answered
  · contradiction
  · split at answered
    · contradiction
    · split at answered
      · rename_i counted
        cases answered
        simpa using counted
      · contradiction

theorem length_of_run {chain : Chain} {contract : Address} {calls : List SubCall}
    {block : UInt64} {uid : Uid} {found : List (Option Bytes)}
    (answered : (run chain contract calls block uid).result = .ok found) :
    found.length = calls.length := by
  cases calls with
  | nil =>
      cases answered
      rfl
  | cons call calls =>
      exact length_of_answers (Checked.mapError_eq_ok_iff.mp answered)

theorem run_result (chain : Chain) (contract : Address) (calls : List SubCall) (block : UInt64)
    (uid : Uid) :
    (∃ reason, (run chain contract calls block uid).result = .error (.multicall uid reason)) ∨
      ∃ found, (run chain contract calls block uid).result = .ok found ∧
        found.length = calls.length := by
  cases answered : (run chain contract calls block uid).result with
  | ok found => exact .inr ⟨found, rfl, length_of_run answered⟩
  | error failure =>
      left
      cases calls with
      | nil => exact nomatch answered
      | cons call calls =>
          rw [run_of_ne_nil (List.cons_ne_nil _ _)] at answered
          obtain ⟨fault, _, rfl⟩ := Checked.mapError_eq_error_iff.mp answered
          exact ⟨fault.message, rfl⟩

theorem decodeResult?_encodeResult {r : SubResult} (short : r.data.length < 2 ^ 64)
    (rest : Bytes) : decodeResult? (encodeResult r ++ rest) = some r := by
  obtain ⟨success, data⟩ := r
  let flag := Abi.word (if success then 1 else 0)
  let body := Abi.bytes data ++ rest
  let tuple := flag ++ (Abi.word 64 ++ body)
  have laidOut : encodeResult ⟨success, data⟩ ++ rest = tuple := by
    simp only [encodeResult, tuple, flag, body, List.append_assoc]
  have second : tuple.drop 32 = Abi.word 64 ++ body := Abi.drop_word _ _
  have offset : Abi.follow? tuple (tuple.drop 32) = some body := by
    have regrouped : tuple = (flag ++ Abi.word 64) ++ body := by
      simp only [tuple, List.append_assoc]
    rw [second, regrouped]
    exact Abi.follow?_word (by simp [flag]) (by decide)
  have read : Abi.readBytes? body = some data := Abi.readBytes?_bytes short rest
  have flagged : ∃ word, Abi.readWord? tuple = some word ∧ (word != 0) = success := by
    cases success with
    | false => exact ⟨0, Abi.readWord?_toBytes 0 _, rfl⟩
    | true => exact ⟨1, Abi.readWord?_toBytes 1 _, rfl⟩
  obtain ⟨word, first, meaning⟩ := flagged
  rw [laidOut]
  simp only [decodeResult?, first, offset, read, meaning, Option.bind_eq_bind, Option.bind_some]
  rfl

theorem length_data_le_encodeResult (r : SubResult) :
    r.data.length ≤ (encodeResult r).length := by
  have inside := Abi.length_bytes r.data
  simp only [encodeResult, List.length_append]
  omega

theorem length_encodeResults (results : List SubResult) :
    (encodeResults results).length = 32 + (Abi.array (results.map encodeResult)).length := by
  simp only [encodeResults, Abi.single, List.length_append, Abi.length_word]

/-- The reply lays out the results. No string of bytes is as long as 2^64, and what stands behind
the results does not matter. -/
structure LaysOut (reply : Bytes) (results : List SubResult) : Prop where
  laidOut : ∃ trailing, reply = encodeResults results ++ trailing
  short : (encodeResults results).length < 2 ^ 64

variable {reply : Bytes} {results : List SubResult}

theorem LaysOut.decodeResults? (laysOut : LaysOut reply results) :
    decodeResults? reply = some results := by
  obtain ⟨⟨trailing, rfl⟩, short⟩ := laysOut
  rw [length_encodeResults] at short
  have read : Abi.readArray? decodeResult? (Abi.array (results.map encodeResult) ++ trailing) =
      some (results.map id) := by
    refine Abi.readArray?_array_map ?_ results trailing (by omega)
    intro r rest shortResult
    exact decodeResult?_encodeResult
      (Nat.lt_of_le_of_lt (length_data_le_encodeResult r) shortResult) rest
  rw [BatchRead.decodeResults?, encodeResults, Abi.single_append, Abi.readSingle?_single, read,
    List.map_id]

theorem LaysOut.answers (laysOut : LaysOut reply results) (count : Nat) (block : UInt64) :
    answers count block (.ok reply) =
      if results.length = count then .ok (results.map SubResult.answer?)
      else .error (.miscounted results.length count) := by
  simp only [BatchRead.answers, laysOut.decodeResults?]

theorem LaysOut.length_data_lt (laysOut : LaysOut reply results) {r : SubResult}
    (member : r ∈ results) : r.data.length < 2 ^ 64 := by
  have part := Abi.length_le_of_mem_array (List.mem_map_of_mem (f := encodeResult) member)
  have data := length_data_le_encodeResult r
  have whole := laysOut.short
  rw [length_encodeResults] at whole
  omega

variable {chain : Chain} {contract : Address} {calls : List SubCall} {block : UInt64} {uid : Uid}

theorem LaysOut.run_eq_ok (laysOut : LaysOut reply results) (asking : calls ≠ [])
    (replied : chain.call (transaction contract calls) block = .ok reply)
    (counted : results.length = calls.length) :
    (run chain contract calls block uid).result = .ok (results.map SubResult.answer?) := by
  rw [run_of_ne_nil asking, replied, laysOut.answers, if_pos counted]
  rfl

theorem LaysOut.run_eq_error_iff (laysOut : LaysOut reply results) (asking : calls ≠ [])
    (replied : chain.call (transaction contract calls) block = .ok reply) :
    (∃ failure, (run chain contract calls block uid).result = .error failure) ↔
      results.length ≠ calls.length := by
  constructor
  · rintro ⟨failure, failed⟩ counted
    exact nomatch (laysOut.run_eq_ok asking replied counted).symm.trans failed
  · intro miscounted
    rw [run_of_ne_nil asking, replied, laysOut.answers, if_neg miscounted]
    exact ⟨_, rfl⟩

end SwapDesk.BatchRead
