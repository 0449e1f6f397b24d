import Mathlib.Data.List.TakeWhile
import SwapDesk.Token.Basic

/-!
Cutting surplus places off a text. They are counted in bytes, so that a cut can fall within a
character; if it does not, the text is in two parts, and nothing but the first of them is read.
-/

namespace SwapDesk.Units

@[simp] theorem byteLength_cons (c : Char) (cs : List Char) :
    byteLength (c :: cs) = c.utf8Size + byteLength cs := rfl

@[simp] theorem byteLength_append (cs ds : List Char) :
    byteLength (cs ++ ds) = byteLength cs + byteLength ds := by
  induction cs with
  | nil => exact (Nat.zero_add _).symm
  | cons c cs ih => simp [ih, Nat.add_assoc]

@[simp] theorem byteLength_reverse (cs : List Char) : byteLength cs.reverse = byteLength cs := by
  induction cs with
  | nil => rfl
  | cons c cs ih =>
      rw [List.reverse_cons, byteLength_append, ih, byteLength_cons, Nat.add_comm]
      rfl

theorem byteLength_eq_zero_iff {cs : List Char} : byteLength cs = 0 ↔ cs = [] := by
  cases cs with
  | nil => simp [byteLength]
  | cons c cs =>
      have positive := c.utf8Size_pos
      simp only [byteLength_cons, reduceCtorEq, iff_false]
      omega

theorem dropBytes?_eq_some_iff {n : ℕ} {cs rest : List Char} :
    dropBytes? n cs = some rest ↔ ∃ front, front ++ rest = cs ∧ byteLength front = n := by
  induction cs generalizing n with
  | nil =>
      cases n with
      | zero => simp [dropBytes?, byteLength_eq_zero_iff]
      | succ n => simp [dropBytes?, byteLength]
  | cons c cs ih =>
      cases n with
      | zero => simpa [dropBytes?, byteLength_eq_zero_iff] using eq_comm
      | succ n =>
          have positive := c.utf8Size_pos
          rw [dropBytes?]
          constructor
          · intro dropped
            split at dropped
            · rename_i inside
              obtain ⟨front, rfl, size⟩ := ih.mp dropped
              refine ⟨c :: front, rfl, ?_⟩
              rw [byteLength_cons]
              omega
            · contradiction
          · rintro ⟨front, whole, size⟩
            cases front with
            | nil =>
                change 0 = n + 1 at size
                omega
            | cons d front =>
                obtain ⟨rfl, rfl⟩ := List.cons.inj whole
                rw [byteLength_cons] at size
                rw [if_pos (by omega)]
                exact ih.mpr ⟨front, rfl, by omega⟩

theorem dropBytesRight?_eq_some_iff {n : ℕ} {cs kept : List Char} :
    dropBytesRight? n cs = some kept ↔ ∃ lost, kept ++ lost = cs ∧ byteLength lost = n := by
  rw [dropBytesRight?, Option.map_eq_some_iff]
  constructor
  · rintro ⟨rest, dropped, rfl⟩
    obtain ⟨front, whole, size⟩ := dropBytes?_eq_some_iff.mp dropped
    refine ⟨front.reverse, ?_, ?_⟩
    · rw [← List.reverse_append, whole, List.reverse_reverse]
    · rw [byteLength_reverse, size]
  · rintro ⟨lost, rfl, size⟩
    refine ⟨kept.reverse, dropBytes?_eq_some_iff.mpr ⟨lost.reverse, ?_, ?_⟩, List.reverse_reverse _⟩
    · rw [List.reverse_append]
    · rw [byteLength_reverse, size]

theorem splitPoint_append {whole : List Char} (absent : '.' ∉ whole) (places : List Char) :
    splitPoint (whole ++ '.' :: places) = (whole, places) := by
  have before : ∀ c ∈ whole, decide (c ≠ '.') = true := by
    intro c member
    exact decide_eq_true fun point => absent (point ▸ member)
  rw [splitPoint, List.takeWhile_append_of_pos before, List.dropWhile_append_of_pos before]
  simp

theorem splitPoint_of_not_mem {cs : List Char} (absent : '.' ∉ cs) : splitPoint cs = (cs, []) := by
  have all : ∀ c ∈ cs, decide (c ≠ '.') = true := by
    intro c member
    exact decide_eq_true fun point => absent (point ▸ member)
  rw [splitPoint, List.takeWhile_eq_self_iff.mpr all, List.dropWhile_eq_nil_iff.mpr all]
  rfl

theorem splitPoint_erase (cs : List Char) :
    (splitPoint cs).1 ++ (splitPoint cs).2 = cs.erase '.' := by
  by_cases point : '.' ∈ cs
  · obtain ⟨whole, places, rfl, absent⟩ := List.eq_append_cons_of_mem point
    rw [splitPoint_append absent, List.erase_append_right _ absent, List.erase_cons_head]
  · rw [splitPoint_of_not_mem point, List.erase_of_not_mem point, List.append_nil]

/-- A text in two parts, of which the second has just the bytes that are too many after the point.
There are no such parts when the cut would go through a character. -/
structure Cut (decimals : ℕ) (cs kept lost : List Char) : Prop where
  parts : kept ++ lost = cs
  surplus : byteLength lost = byteLength (splitPoint cs).2 - decimals

theorem Cut.of_enough {decimals : ℕ} {cs : List Char}
    (enough : byteLength (splitPoint cs).2 ≤ decimals) : Cut decimals cs cs [] :=
  ⟨List.append_nil cs, (Nat.sub_eq_zero_of_le enough).symm⟩

namespace Cut

variable {decimals : ℕ} {cs kept lost : List Char}

theorem places (cut : Cut decimals cs kept lost) :
    lost = [] ∧ kept = cs ∨
      ∃ whole front, '.' ∉ whole ∧ kept = whole ++ '.' :: front ∧
        cs = whole ++ '.' :: (front ++ lost) := by
  obtain ⟨parts, surplus⟩ := cut
  by_cases point : '.' ∈ cs
  · obtain ⟨whole, places, rfl, absent⟩ := List.eq_append_cons_of_mem point
    simp only [splitPoint_append absent] at surplus
    have together : kept ++ lost = (whole ++ ['.']) ++ places := by simp [parts]
    rcases List.append_eq_append_iff.mp together with ⟨front, before, rfl⟩ | ⟨front, rfl, rfl⟩
    · -- No more than the places can be cut off, so the point and all before it are kept.
      rw [byteLength_append] at surplus
      have nothing : front = [] := byteLength_eq_zero_iff.mp (by omega)
      subst nothing
      exact .inr ⟨whole, [], absent, by simpa using before.symm, rfl⟩
    · exact .inr ⟨whole, front, absent, by simp, rfl⟩
  · rw [splitPoint_of_not_mem point] at surplus
    have nothing : lost = [] := byteLength_eq_zero_iff.mp (surplus.trans (Nat.zero_sub decimals))
    subst nothing
    exact .inl ⟨rfl, by simpa using parts⟩

theorem erase_eq (cut : Cut decimals cs kept lost) : cs.erase '.' = kept.erase '.' ++ lost := by
  rcases cut.places with ⟨rfl, rfl⟩ | ⟨whole, front, absent, rfl, rfl⟩
  · simp
  · simp [List.erase_append_right _ absent]

theorem head?_eq (cut : Cut decimals cs kept lost) : cs.head? = kept.head? := by
  rcases cut.places with ⟨-, rfl⟩ | ⟨whole, front, -, rfl, rfl⟩
  · rfl
  · cases whole <;> rfl

theorem align?_eq_some (cut : Cut decimals cs kept lost) :
    align? decimals cs =
      some (kept.erase '.', decimals - byteLength (splitPoint kept).2) := by
  have surplus := cut.surplus
  rcases cut.places with ⟨rfl, rfl⟩ | ⟨whole, front, absent, rfl, rfl⟩
  · have enough : ¬ decimals < byteLength (splitPoint kept).2 := by
      change 0 = _ at surplus
      omega
    rw [align?]
    simp only [if_neg enough, splitPoint_erase]
  · simp only [splitPoint_append absent] at surplus
    rw [align?, splitPoint_append absent, splitPoint_append absent]
    simp only [List.erase_append_right _ absent, List.erase_cons_head]
    rw [byteLength_append] at surplus ⊢
    by_cases more : decimals < byteLength front + byteLength lost
    · have dropped : dropBytesRight? (byteLength front + byteLength lost - decimals)
          (front ++ lost) = some front :=
        dropBytesRight?_eq_some_iff.mpr ⟨lost, rfl, surplus⟩
      have filled : decimals - byteLength front = 0 := by omega
      rw [if_pos more, dropped, filled, Option.map_some]
    · have nothing : lost = [] := byteLength_eq_zero_iff.mp (by omega)
      subst nothing
      rw [if_neg more, List.append_nil]
      rfl

theorem again (cut : Cut decimals cs kept lost) : Cut decimals kept kept [] := by
  apply Cut.of_enough
  have surplus := cut.surplus
  rcases cut.places with ⟨rfl, rfl⟩ | ⟨whole, front, absent, rfl, rfl⟩
  · exact Nat.le_of_sub_eq_zero surplus.symm
  · simp only [splitPoint_append absent, byteLength_append] at surplus ⊢
    omega

theorem read_eq (cut : Cut decimals cs kept lost) : read decimals cs = read decimals kept := by
  rw [read, read, cut.align?_eq_some, cut.again.align?_eq_some, cut.head?_eq]

end Cut

theorem exists_cut_of_align? {decimals : ℕ} {cs : List Char} {aligned : List Char × ℕ}
    (found : align? decimals cs = some aligned) : ∃ kept lost, Cut decimals cs kept lost := by
  by_cases point : '.' ∈ cs
  · obtain ⟨whole, places, rfl, absent⟩ := List.eq_append_cons_of_mem point
    rw [align?, splitPoint_append absent] at found
    simp only at found
    split at found
    · obtain ⟨front, dropped, -⟩ := Option.map_eq_some_iff.mp found
      obtain ⟨lost, rfl, size⟩ := dropBytesRight?_eq_some_iff.mp dropped
      refine ⟨whole ++ '.' :: front, lost, by simp, ?_⟩
      rwa [splitPoint_append absent]
    · rename_i enough
      refine ⟨_, [], .of_enough ?_⟩
      rw [splitPoint_append absent]
      exact Nat.le_of_not_lt enough
  · refine ⟨cs, [], .of_enough ?_⟩
    rw [splitPoint_of_not_mem point]
    exact Nat.zero_le decimals

theorem align?_eq_none_iff {decimals : ℕ} {cs : List Char} :
    align? decimals cs = none ↔ ¬ ∃ kept lost, Cut decimals cs kept lost := by
  constructor
  · rintro torn ⟨kept, lost, cut⟩
    rw [cut.align?_eq_some] at torn
    contradiction
  · intro uncut
    apply Option.eq_none_iff_forall_ne_some.mpr
    intro aligned found
    exact uncut (exists_cut_of_align? found)

end SwapDesk.Units
