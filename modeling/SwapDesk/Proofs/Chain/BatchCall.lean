import SwapDesk.Chain.BatchRead
import SwapDesk.Proofs.Abi.Parts

namespace SwapDesk.BatchRead

def lenient (call : SubCall) : Address × Bool × Bytes :=
  (call.target, true, call.data)

theorem decodeCall?_encodeCall {call : SubCall} (short : call.data.length < 2 ^ 64)
    (rest : Bytes) : decodeCall? (encodeCall call ++ rest) = some (lenient call) := by
  let body := Abi.bytes call.data ++ rest
  let tuple := call.target.toWord.toBytes ++ (Abi.word 1 ++ (Abi.word 96 ++ body))
  have laidOut : encodeCall call ++ rest = tuple := by
    simp only [encodeCall, tuple, body, List.append_assoc]
  have second : tuple.drop 32 = Abi.word 1 ++ (Abi.word 96 ++ body) := Abi.drop_toBytes _ _
  have third : tuple.drop 64 = Abi.word 96 ++ body := by
    rw [show (64 : Nat) = 32 + 32 from rfl, ← List.drop_drop, second, Abi.drop_word]
  have offset : Abi.follow? tuple (tuple.drop 64) = some body := by
    have regrouped : tuple =
        (call.target.toWord.toBytes ++ (Abi.word 1 ++ Abi.word 96)) ++ body := by
      simp only [tuple, List.append_assoc]
    rw [third, regrouped]
    exact Abi.follow?_word (by simp) (by decide)
  have target : Abi.readWord? tuple = some call.target.toWord := Abi.readWord?_toBytes _ _
  have allowed : Abi.readWord? (tuple.drop 32) = some 1 := by
    rw [second, Abi.word_eq_toBytes (by decide)]
    exact Abi.readWord?_toBytes 1 _
  have data : Abi.readBytes? body = some call.data := Abi.readBytes?_bytes short rest
  rw [laidOut]
  simp only [decodeCall?, target, allowed, offset, data, Option.bind_eq_bind, Option.bind_some,
    Address.ofWord_toWord]
  rfl

theorem length_data_le (call : SubCall) : call.data.length ≤ (encodeCall call).length := by
  have inside := Abi.length_bytes call.data
  simp only [encodeCall, List.length_append]
  omega

theorem decodeCalls?_encodeCalls {calls : List SubCall}
    (small : (encodeCalls calls).length < 2 ^ 64) :
    decodeCalls? (encodeCalls calls) = some (calls.map lenient) := by
  have width : selector.length = 4 := rfl
  rw [decodeCalls?, encodeCalls, if_pos (Abi.take_of_length width)]
  refine Abi.readSingle?_drop_array_map width ?_ calls small
  intro call rest short
  exact decodeCall?_encodeCall (Nat.lt_of_le_of_lt (length_data_le call) short) rest

end SwapDesk.BatchRead
