import Mathlib.Data.List.Basic
import Mathlib.Data.List.Forall2
import Mathlib.Data.List.Perm.Basic

namespace SwapDesk

variable {α β : Type} {find : α → Option β} {items : List α} {x : α} {b : β}

def latest? (find : α → Option β) (items : List α) : Option β :=
  (items.filterMap find).getLast?

theorem latest?_singleton (find : α → Option β) (x : α) : latest? find [x] = find x := by
  cases found : find x with
  | none => simp [latest?, found]
  | some b => simp [latest?, found]

theorem latest?_append (find : α → Option β) (items more : List α) :
    latest? find (items ++ more) = (latest? find more).or (latest? find items) := by
  rw [latest?, List.filterMap_append, List.getLast?_append, latest?, latest?]

theorem latest?_cons (find : α → Option β) (x : α) (items : List α) :
    latest? find (x :: items) = (latest? find items).or (find x) := by
  rw [← List.singleton_append, latest?_append, latest?_singleton]

theorem latest?_concat (find : α → Option β) (items : List α) (x : α) :
    latest? find (items ++ [x]) = (find x).or (latest? find items) := by
  rw [latest?_append, latest?_singleton]

theorem latest?_eq_none_iff : latest? find items = none ↔ ∀ x ∈ items, find x = none := by
  rw [latest?, List.getLast?_eq_none_iff, List.filterMap_eq_nil_iff]

theorem exists_mem_of_latest? (last : latest? find items = some b) :
    ∃ x ∈ items, find x = some b :=
  List.mem_filterMap.mp (List.mem_of_getLast? last)

theorem latest?_forall₂ {γ : Type} {R : α → γ → Prop} {find' : γ → Option β} {others : List γ}
    (related : List.Forall₂ R items others) (same : ∀ x y, R x y → find x = find' y) :
    latest? find items = latest? find' others := by
  have found : items.filterMap find = others.filterMap find' := by
    induction related with
    | nil => rfl
    | cons here _ ih => rw [List.filterMap_cons, List.filterMap_cons, same _ _ here, ih]
  rw [latest?, found, latest?]

/-- Whatever is found is the same. -/
def FindsOne (find : α → Option β) (items : List α) : Prop :=
  ∀ x ∈ items, ∀ y ∈ items, ∀ b c, find x = some b → find y = some c → b = c

theorem latest?_of_findsOne (one : FindsOne find items) (member : x ∈ items)
    (found : find x = some b) : latest? find items = some b := by
  cases last : latest? find items with
  | none => exact nomatch found.symm.trans (latest?_eq_none_iff.mp last x member)
  | some c =>
      obtain ⟨y, there, also⟩ := exists_mem_of_latest? last
      rw [one y there x member c b also found]

theorem latest?_perm {order : List α} (one : FindsOne find items) (perm : order.Perm items) :
    latest? find order = latest? find items := by
  cases last : latest? find order with
  | none =>
      symm
      rw [latest?_eq_none_iff] at last ⊢
      intro x member
      exact last x (perm.mem_iff.mpr member)
  | some b =>
      obtain ⟨x, member, found⟩ := exists_mem_of_latest? last
      exact (latest?_of_findsOne one (perm.mem_iff.mp member) found).symm

/-- Whatever is found is the last that is found in some order. -/
theorem exists_perm_latest? (member : x ∈ items) (found : find x = some b) :
    ∃ order : List α, order.Perm items ∧ latest? find order = some b := by
  obtain ⟨before, after, rfl⟩ := List.mem_iff_append.mp member
  refine ⟨before ++ after ++ [x], ?_, ?_⟩
  · rw [List.append_assoc]
    exact (List.perm_append_singleton x after).append_left before
  · rw [latest?_concat, found, Option.some_or]

end SwapDesk
