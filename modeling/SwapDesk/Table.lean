namespace SwapDesk

abbrev Table (κ α : Type) := List (κ × α)

namespace Table

variable {κ α : Type} [DecidableEq κ]

def get? (t : Table κ α) (key : κ) : Option α :=
  (t.find? fun e => e.1 == key).map (·.2)

def put (t : Table κ α) (key : κ) (value : α) : Table κ α :=
  (key, value) :: t.filter fun e => e.1 != key

theorem get?_cons (key other : κ) (value : α) (t : Table κ α) :
    get? ((other, value) :: t) key = if other = key then some value else get? t key := by
  by_cases same : other = key
  · simp [get?, same]
  · simp [get?, same]

theorem get?_filter_ne (t : Table κ α) {key other : κ} (different : other ≠ key) :
    get? (t.filter fun e => e.1 != other) key = get? t key := by
  induction t with
  | nil => rfl
  | cons e t ih =>
      obtain ⟨here, value⟩ := e
      rw [get?_cons]
      by_cases dropped : here = other
      · rw [List.filter_cons_of_neg (by simp [dropped]), ih, if_neg (dropped ▸ different)]
      · rw [List.filter_cons_of_pos (by simpa using dropped), get?_cons, ih]

@[simp] theorem get?_put (t : Table κ α) (key other : κ) (value : α) :
    get? (t.put other value) key = if other = key then some value else get? t key := by
  rw [put, get?_cons]
  by_cases same : other = key
  · rw [if_pos same, if_pos same]
  · rw [if_neg same, if_neg same, get?_filter_ne t same]

end Table

end SwapDesk
