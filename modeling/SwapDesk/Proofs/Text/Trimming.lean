import Mathlib.Data.List.DropRight
import SwapDesk.Text.Blank

namespace SwapDesk.Text

variable {p : Char → Bool} {before cs after : List Char}

theorem trimWhile_eq_rdropWhile (p : Char → Bool) (cs : List Char) :
    trimWhile p cs = (cs.dropWhile p).rdropWhile p := rfl

theorem trimWhile_eq_nil_iff : trimWhile p cs = [] ↔ ∀ c ∈ cs, p c = true := by
  rw [trimWhile_eq_rdropWhile, List.rdropWhile_eq_nil_iff, ← List.dropWhile_eq_nil_iff,
    List.dropWhile_idempotent, List.dropWhile_eq_nil_iff]

theorem nonBlank?_eq_none_iff {text : String} :
    nonBlank? text = none ↔ ∀ c ∈ text.toList, isBlank c = true := by
  rw [← trimWhile_eq_nil_iff, nonBlank?, trim, trimChars]
  simp

theorem trimWhile_append_left (all : ∀ c ∈ before, p c = true) :
    trimWhile p (before ++ cs) = trimWhile p cs := by
  rw [trimWhile, List.dropWhile_append_of_pos all, trimWhile]

theorem trimWhile_append_right (all : ∀ c ∈ after, p c = true) :
    trimWhile p (cs ++ after) = trimWhile p cs := by
  by_cases nothing : ∀ c ∈ cs, p c = true
  · rw [trimWhile_append_left nothing, trimWhile_eq_nil_iff.mpr all,
      trimWhile_eq_nil_iff.mpr nothing]
  · have something : (cs.dropWhile p).isEmpty = false := by
      rw [List.isEmpty_eq_false_iff, ne_eq, List.dropWhile_eq_nil_iff]
      exact nothing
    have allReversed : ∀ c ∈ after.reverse, p c = true :=
      fun c member => all c (List.mem_reverse.mp member)
    rw [trimWhile, List.dropWhile_append, something, if_neg Bool.false_ne_true,
      List.reverse_append, List.dropWhile_append_of_pos allReversed, trimWhile]

@[simp] theorem trimWhile_trimWhile (p : Char → Bool) (cs : List Char) :
    trimWhile p (trimWhile p cs) = trimWhile p cs := by
  have leads : (trimWhile p cs).dropWhile p = trimWhile p cs := by
    rw [List.dropWhile_eq_self_iff]
    intro nonempty
    have front : trimWhile p cs <+: cs.dropWhile p := List.rdropWhile_prefix p _
    rw [front.getElem nonempty]
    exact List.dropWhile_get_zero_not p cs _
  rw [trimWhile_eq_rdropWhile p (trimWhile p cs), leads]
  exact List.rdropWhile_idempotent p _

theorem trimWhile_of_ends (first : ∀ c ∈ cs.head?, p c = false)
    (last : ∀ c ∈ cs.getLast?, p c = false) : trimWhile p cs = cs := by
  have leads : cs.dropWhile p = cs := by
    cases cs with
    | nil => rfl
    | cons c cs => rw [List.dropWhile_cons, first c rfl, if_neg Bool.false_ne_true]
  rw [trimWhile_eq_rdropWhile, leads, List.rdropWhile_eq_self_iff]
  intro nonempty
  rw [last _ (List.getLast?_eq_some_getLast nonempty)]
  exact Bool.false_ne_true

theorem trimWhile_eq_self (none : ∀ c ∈ cs, p c = false) : trimWhile p cs = cs :=
  trimWhile_of_ends (fun c first => none c (List.mem_of_mem_head? first))
    fun c last => none c (List.mem_of_mem_getLast? last)

theorem trimWhile_map {f : Char → Char} (same : ∀ c, p (f c) = p c) :
    trimWhile p (cs.map f) = (trimWhile p cs).map f := by
  have alike : p ∘ f = p := funext same
  simp only [trimWhile, List.dropWhile_map, ← List.map_reverse, alike]

theorem trim_append {before text after : String}
    (blankBefore : ∀ c ∈ before.toList, isBlank c = true)
    (blankAfter : ∀ c ∈ after.toList, isBlank c = true) :
    trim (before ++ text ++ after) = trim text := by
  rw [trim, String.toList_append, String.toList_append, trimChars,
    trimWhile_append_right blankAfter, trimWhile_append_left blankBefore, trim, trimChars]

@[simp] theorem trim_trim (text : String) : trim (trim text) = trim text := by
  simp only [trim, trimChars, String.toList_ofList, trimWhile_trimWhile]

end SwapDesk.Text
