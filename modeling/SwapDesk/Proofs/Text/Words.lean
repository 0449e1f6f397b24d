import Mathlib.Data.List.Basic
import SwapDesk.Text.Split

namespace SwapDesk.Text

variable {separates : Char → Bool} {w cs : List Char}

def Breaks (separates : Char → Bool) (after : List Char) : Prop :=
  ∀ c ∈ after.head?, separates c = true

/-- A word of a text: no longer run of characters that separate nothing has it in it. -/
structure IsWord (separates : Char → Bool) (w cs : List Char) : Prop where
  nonempty : w ≠ []
  unbroken : ∀ c ∈ w, separates c = false
  maximal : ∃ before after, cs = before ++ w ++ after ∧
    (∀ c ∈ before.getLast?, separates c = true) ∧ Breaks separates after

theorem Breaks.of_separates {c : Char} (separator : separates c = true) (rest : List Char) :
    Breaks separates (c :: rest) := by
  intro d head
  cases head
  exact separator

theorem runs_of_unbroken (nonempty : w ≠ []) (unbroken : ∀ c ∈ w, separates c = false) :
    runs separates w = [w] := by
  rw [runs, pieces_eq_singleton unbroken]
  simp [nonempty]

theorem runs_append_of_breaks (nonempty : w ≠ []) (unbroken : ∀ c ∈ w, separates c = false)
    {after : List Char} (breaks : Breaks separates after) :
    runs separates (w ++ after) = w :: runs separates after := by
  cases after with
  | nil => rw [List.append_nil, runs_of_unbroken nonempty unbroken]; rfl
  | cons c rest =>
      have separator := breaks c rfl
      rw [runs_append_of_separates separator, runs_cons_of_separates separator,
        runs_of_unbroken nonempty unbroken]
      rfl

theorem runs_append_left {before : List Char} (all : ∀ c ∈ before, separates c = true)
    (cs : List Char) : runs separates (before ++ cs) = runs separates cs := by
  induction before with
  | nil => rfl
  | cons c before ih =>
      obtain ⟨separator, others⟩ := List.forall_mem_cons.mp all
      rw [List.cons_append, runs_cons_of_separates separator, ih others]

theorem runs_of_separators (all : ∀ c ∈ cs, separates c = true) : runs separates cs = [] := by
  have none := runs_append_left all []
  rw [List.append_nil] at none
  exact none

theorem IsWord.mem_runs (word : IsWord separates w cs) : w ∈ runs separates cs := by
  obtain ⟨before, after, rfl, opened, breaks⟩ := word.maximal
  have first := runs_append_of_breaks word.nonempty word.unbroken breaks
  rw [List.append_assoc]
  cases ends : before.getLast? with
  | none =>
      rw [List.getLast?_eq_none_iff.mp ends, List.nil_append, first]
      exact List.mem_cons_self
  | some c =>
      have separator := opened c ends
      obtain ⟨front, rfl⟩ := List.getLast?_eq_some_iff.mp ends
      rw [List.append_assoc, List.singleton_append, runs_append_of_separates separator, first]
      exact List.mem_append_right _ List.mem_cons_self

def StandsInside (separates : Char → Bool) (piece cs : List Char) : Prop :=
  ∃ before c after, cs = before ++ c :: (piece ++ after) ∧ separates c = true ∧
    Breaks separates after

theorem StandsInside.cons {piece : List Char} (stands : StandsInside separates piece cs)
    (c : Char) : StandsInside separates piece (c :: cs) := by
  obtain ⟨before, d, after, rfl, separator, breaks⟩ := stands
  exact ⟨c :: before, d, after, rfl, separator, breaks⟩

theorem pieces_stand {piece : List Char} {others : List (List Char)}
    (cut : pieces separates cs = piece :: others) :
    (∃ after, cs = piece ++ after ∧ Breaks separates after) ∧
      ∀ other ∈ others, StandsInside separates other cs := by
  induction cs generalizing piece others with
  | nil =>
      cases cut
      exact ⟨⟨[], rfl, nofun⟩, nofun⟩
  | cons c cs ih =>
      obtain ⟨next, rest, cutRest⟩ := List.exists_cons_of_ne_nil (pieces_ne_nil separates cs)
      obtain ⟨⟨after, rfl, breaks⟩, inside⟩ := ih cutRest
      have later : ∀ other ∈ rest, StandsInside separates other (c :: (next ++ after)) :=
        fun other member => (inside other member).cons c
      by_cases separator : separates c = true
      · rw [pieces_cons_of_separates separator, cutRest] at cut
        cases cut
        refine ⟨⟨_, rfl, .of_separates separator _⟩, ?_⟩
        rw [List.forall_mem_cons]
        exact ⟨⟨[], c, after, rfl, separator, breaks⟩, later⟩
      · simp only [pieces, separator, cutRest, Bool.false_eq_true, if_false] at cut
        cases cut
        exact ⟨⟨after, rfl, breaks⟩, later⟩

theorem isWord_of_mem_runs (member : w ∈ runs separates cs) : IsWord separates w cs := by
  obtain ⟨found, full⟩ := List.mem_filter.mp member
  obtain ⟨piece, others, cut⟩ := List.exists_cons_of_ne_nil (pieces_ne_nil separates cs)
  obtain ⟨⟨after, whole, breaks⟩, inside⟩ := pieces_stand cut
  refine ⟨by simpa using full, separates_of_mem_pieces found, ?_⟩
  rw [cut] at found
  rcases List.mem_cons.mp found with rfl | later
  · exact ⟨[], after, whole, nofun, breaks⟩
  · obtain ⟨before, c, after, stands, separator, breaks⟩ := inside w later
    refine ⟨before ++ [c], after, by simpa using stands, ?_, breaks⟩
    intro d last
    rw [List.getLast?_concat] at last
    cases last
    exact separator

theorem mem_runs_iff : w ∈ runs separates cs ↔ IsWord separates w cs :=
  ⟨isWord_of_mem_runs, IsWord.mem_runs⟩

end SwapDesk.Text
