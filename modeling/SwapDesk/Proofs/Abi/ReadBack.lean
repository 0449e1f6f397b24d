import SwapDesk.Abi.Decode

namespace SwapDesk.Abi

theorem take_of_length {front rest : Bytes} {n : Nat} (width : front.length = n) :
    (front ++ rest).take n = front := by
  subst width
  exact List.take_left

theorem drop_of_length {front rest : Bytes} {n : Nat} (width : front.length = n) :
    (front ++ rest).drop n = rest := by
  subst width
  exact List.drop_left

@[simp] theorem drop_toBytes (w : Word) (rest : Bytes) :
    (w.toBytes ++ rest).drop 32 = rest :=
  drop_of_length w.length_toBytes

@[simp] theorem drop_word (n : Nat) (rest : Bytes) : (word n ++ rest).drop 32 = rest :=
  drop_of_length (length_word n)

@[simp] theorem readWord?_toBytes (w : Word) (rest : Bytes) :
    readWord? (w.toBytes ++ rest) = some w := by
  simp only [readWord?, take_of_length w.length_toBytes, Word.length_toBytes, if_true,
    Word.ofBytes_toBytes]

theorem word_eq_toBytes {n : Nat} (small : n < 2 ^ 64) :
    word n = Word.toBytes (BitVec.ofNat 256 n) := by
  have inside : n < 2 ^ 256 := by omega
  rw [word, Word.toBytes, BitVec.toNat_ofNat, Nat.mod_eq_of_lt inside]

theorem readSize?_word {n : Nat} (small : n < 2 ^ 64) (rest : Bytes) :
    readSize? (word n ++ rest) = some n := by
  have inside : n % 2 ^ 256 = n := Nat.mod_eq_of_lt (by omega)
  rw [readSize?, word_eq_toBytes small, readWord?_toBytes]
  simp only [Option.map_some, BitVec.toNat_ofNat, inside, Option.filter_some, small,
    decide_true, if_true]

theorem readWords?_words (ws : List Word) (rest : Bytes) :
    readWords? ws.length (words ws ++ rest) = some ws := by
  induction ws with
  | nil => rfl
  | cons w ws ih =>
      rw [words_cons, List.append_assoc, List.length_cons, readWords?, readWord?_toBytes,
        drop_toBytes]
      simp only [Option.bind_eq_bind, Option.bind_some, ih]
      rfl

theorem readWordArray?_wordArray {ws : List Word} (few : ws.length < 2 ^ 64) (rest : Bytes) :
    readWordArray? (wordArray ws ++ rest) = some ws := by
  rw [readWordArray?, wordArray, List.append_assoc, readSize?_word few, drop_word]
  exact readWords?_words ws rest

theorem follow?_word {front behind rest : Bytes} {n : Nat} (width : front.length = n)
    (small : n < 2 ^ 64) : follow? (front ++ behind) (word n ++ rest) = some behind := by
  rw [follow?, readSize?_word small]
  have inside : n ≤ (front ++ behind).length := by
    rw [List.length_append, width]
    omega
  simp only [Option.bind_eq_bind, Option.bind_some, seek?, inside, if_true,
    drop_of_length width]

end SwapDesk.Abi
