import Mathlib.Data.List.Forall2
import SwapDesk.Proofs.Abi.ReadBack

namespace SwapDesk.Abi

variable {α β : Type}

theorem length_bytes (b : Bytes) : b.length ≤ (bytes b).length := by
  simp only [bytes, List.length_append]
  omega

theorem length_array (parts : List Bytes) :
    (array parts).length = 32 + (32 * parts.length + parts.flatten.length) := by
  simp only [array, List.length_append, length_word, length_offsets]

theorem length_le_of_mem_array {part : Bytes} {parts : List Bytes} (member : part ∈ parts) :
    part.length ≤ (array parts).length := by
  have inside := (List.sublist_flatten_of_mem member).length_le
  rw [length_array]
  omega

theorem readBytes?_bytes {b : Bytes} (short : b.length < 2 ^ 64) (rest : Bytes) :
    readBytes? (bytes b ++ rest) = some b := by
  have size : readSize? (bytes b ++ rest) = some b.length := by
    rw [bytes, List.append_assoc]
    exact readSize?_word short _
  have body : ((bytes b ++ rest).drop 32).take b.length = b := by
    simp only [bytes, List.append_assoc, drop_word, take_of_length rfl]
  simp only [readBytes?, size, Option.bind_eq_bind, Option.bind_some, body, if_true]

theorem readSingle?_single (body? : Bytes → Option α) (body : Bytes) :
    readSingle? body? (single body) = body? body := by
  rw [readSingle?, single, follow?_word (length_word 32) (by decide)]
  rfl

theorem single_append (body rest : Bytes) : single body ++ rest = single (body ++ rest) :=
  List.append_assoc _ _ _

theorem readParts?_offsets {part? : Bytes → Option α} {parts : List Bytes} {values : List α}
    (reads : List.Forall₂ (fun part value => ∀ rest, part? (part ++ rest) = some value)
      parts values)
    (front rest tail : Bytes) (small : front.length + parts.flatten.length < 2 ^ 64) :
    readParts? part? (front ++ (parts.flatten ++ rest)) parts.length
      (offsets front.length parts ++ tail) = some values := by
  induction reads generalizing front with
  | nil => rfl
  | @cons part value parts values read _ ih =>
      rw [List.flatten_cons, List.length_append] at small
      have further := ih (front ++ part) (by rw [List.length_append]; omega)
      rw [List.append_assoc, List.length_append] at further
      have here : follow? (front ++ (part ++ (parts.flatten ++ rest)))
          (word front.length ++ (offsets (front.length + part.length) parts ++ tail)) =
            some (part ++ (parts.flatten ++ rest)) :=
        follow?_word rfl (by omega)
      rw [List.flatten_cons, List.append_assoc, List.length_cons, offsets, List.append_assoc,
        readParts?, here, drop_word, further]
      simp only [Option.bind_eq_bind, Option.bind_some, read]
      rfl

theorem readArray?_array {part? : Bytes → Option α} {parts : List Bytes} {values : List α}
    (reads : List.Forall₂ (fun part value => ∀ rest, part? (part ++ rest) = some value)
      parts values)
    (rest : Bytes) (small : (array parts).length < 2 ^ 64) :
    readArray? part? (array parts ++ rest) = some values := by
  rw [length_array] at small
  have counted : parts.length < 2 ^ 64 := by omega
  have read := readParts?_offsets reads (offsets (32 * parts.length) parts) rest
    (parts.flatten ++ rest) (by rw [length_offsets]; omega)
  rw [length_offsets] at read
  rw [readArray?, array, List.append_assoc, readSize?_word counted, drop_word, List.append_assoc]
  exact read

variable {layOut : β → Bytes} {part? : Bytes → Option α} {value : β → α}

theorem readArray?_array_map
    (reads : ∀ item rest, (layOut item).length < 2 ^ 64 →
      part? (layOut item ++ rest) = some (value item))
    (items : List β) (rest : Bytes) (small : (array (items.map layOut)).length < 2 ^ 64) :
    readArray? part? (array (items.map layOut) ++ rest) = some (items.map value) := by
  refine readArray?_array ?_ rest small
  rw [List.forall₂_map_left_iff, List.forall₂_map_right_iff, List.forall₂_same]
  intro item member rest
  have inside := length_le_of_mem_array (List.mem_map_of_mem (f := layOut) member)
  exact reads item rest (Nat.lt_of_le_of_lt inside small)

/-- A call whose one argument is an array of laid-out items is read back from behind its
selector. -/
theorem readSingle?_drop_array_map {selector : Bytes} (width : selector.length = 4)
    (reads : ∀ item rest, (layOut item).length < 2 ^ 64 →
      part? (layOut item ++ rest) = some (value item))
    (items : List β)
    (small : (selector ++ single (array (items.map layOut))).length < 2 ^ 64) :
    readSingle? (readArray? part?) ((selector ++ single (array (items.map layOut))).drop 4) =
      some (items.map value) := by
  have inside : (array (items.map layOut)).length < 2 ^ 64 := by
    simp only [single, List.length_append] at small
    omega
  have read := readArray?_array_map reads items [] inside
  rw [drop_of_length width, readSingle?_single]
  rwa [List.append_nil] at read

end SwapDesk.Abi
