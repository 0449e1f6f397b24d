import Mathlib.Data.List.Induction
import SwapDesk.Json.Access

namespace SwapDesk.Json

variable {key other : String} {value : Json} {members : List (String × Json)}

theorem find?_insertMember_self :
    (insertMember key value members).find? (fun m => m.1 == key) = some (key, value) := by
  induction members with
  | nil => simp [insertMember]
  | cons first rest ih =>
      obtain ⟨k, v⟩ := first
      rw [insertMember]
      split
      · simp
      split
      · simp
      · rename_i different
        simp [different, ih]

theorem find?_insertMember_of_ne (different : key ≠ other) :
    (insertMember key value members).find? (fun m => m.1 == other) =
      members.find? fun m => m.1 == other := by
  induction members with
  | nil => simp [insertMember, different]
  | cons first rest ih =>
      obtain ⟨k, v⟩ := first
      rw [insertMember]
      split
      · simp [different]
      split
      · rename_i same
        simp [same, different]
      · simp only [List.find?_cons, ih]

theorem get?_ofMembers (members : List (String × Json)) (key : String) :
    (ofMembers members).get? key = (members.reverse.find? fun m => m.1 == key).map (·.2) := by
  simp only [ofMembers, get?]
  congr 1
  induction members using List.reverseRecOn with
  | nil => rfl
  | append_singleton members last ih =>
      rw [List.foldl_append, List.reverse_append]
      simp only [List.foldl_cons, List.foldl_nil, List.reverse_singleton, List.singleton_append]
      by_cases same : last.1 = key
      · subst same
        simp [find?_insertMember_self]
      · simp [find?_insertMember_of_ne same, same, ih]

end SwapDesk.Json
