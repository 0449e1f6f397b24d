import Mathlib.Data.Int.ConditionallyCompleteOrder
import Mathlib.Data.List.MinMax
import Mathlib.Data.Prod.Lex
import Mathlib.Order.ConditionallyCompleteLattice.Basic
import SwapDesk.Route.Router

namespace SwapDesk

theorem Platform.idxOf_byPriority (p : Platform) :
    byPriority.idxOf p = p.priority := by
  cases p <;> rfl

namespace Priced

/-- What a candidate costs when the other side of the trade is given; the less the better. -/
def cost : Direction → Priced → ℤ
  | .exactIn, p => -(p.amountOut.toNat : ℤ)
  | .exactOut, p => (p.amountIn.toNat : ℤ)

/-- Cost first, then hops, then the place of the platform in the priority list. -/
def rank (direction : Direction) (p : Priced) : ℤ ×ₗ ℕ ×ₗ ℕ :=
  toLex (p.cost direction,
    toLex (p.path.length, Platform.byPriority.idxOf p.path.platform))

theorem rank_lt_iff (direction : Direction) (a b : Priced) :
    rank direction a < rank direction b ↔
      cost direction a < cost direction b ∨
        cost direction a = cost direction b ∧
          (a.path.length < b.path.length ∨
            a.path.length = b.path.length ∧
              a.path.platform.priority < b.path.platform.priority) := by
  simp only [rank, Prod.Lex.toLex_lt_toLex, Platform.idxOf_byPriority]

theorem cost_le_of_rank_le {direction : Direction} {a b : Priced}
    (least : rank direction a ≤ rank direction b) :
    cost direction a ≤ cost direction b := by
  rcases Prod.Lex.toLex_le_toLex.mp least with less | ⟨equal, _⟩
  · exact le_of_lt less
  · exact le_of_eq equal

theorem cheaper_iff (direction : Direction) (a b : Priced) :
    cheaper direction a b = true ↔ cost direction a < cost direction b := by
  cases direction with
  | exactIn => simp [cheaper, cost]
  | exactOut => simp [cheaper, cost]

theorem better_iff (direction : Direction) (a b : Priced) :
    better direction a b = true ↔ rank direction a < rank direction b := by
  rw [rank_lt_iff]
  unfold better
  by_cases less : cost direction a < cost direction b
  · simp [(cheaper_iff direction a b).mpr less, less]
  · have notCheaper : cheaper direction a b = false :=
      Bool.eq_false_iff.mpr (mt (cheaper_iff direction a b).mp less)
    by_cases more : cost direction b < cost direction a
    · have different : cost direction a ≠ cost direction b := ne_of_gt more
      simp [notCheaper, (cheaper_iff direction b a).mpr more, less, different]
    · have notDearer : cheaper direction b a = false :=
        Bool.eq_false_iff.mpr (mt (cheaper_iff direction b a).mp more)
      have equal : cost direction a = cost direction b := by omega
      by_cases hops : a.path.length = b.path.length
      · simp [notCheaper, notDearer, equal, hops]
      · simp [notCheaper, notDearer, equal, hops]

theorem best?_eq_argmin (direction : Direction) (offers : List Priced) :
    best? direction offers = offers.argmin (rank direction) := by
  have step : keep direction =
      List.argAux fun a b => rank direction a < rank direction b := by
    funext best next
    cases best with
    | none => rfl
    | some current => simp [keep, List.argAux, better_iff]
  rw [best?, step]
  rfl

@[simp] theorem best?_eq_none {direction : Direction} {offers : List Priced} :
    best? direction offers = none ↔ offers = [] := by
  rw [best?_eq_argmin, List.argmin_eq_none]

/-- The winner is the first of least rank: what stands before it ranks strictly behind it. -/
theorem best?_eq_some_iff {direction : Direction} {offers : List Priced} {winner : Priced} :
    best? direction offers = some winner ↔
      ∃ before after, offers = before ++ winner :: after ∧
        (∀ p ∈ before, rank direction winner < rank direction p) ∧
        (∀ p ∈ after, rank direction winner ≤ rank direction p) := by
  rw [best?_eq_argmin, List.argmin_eq_some_iff]
  constructor
  · rintro ⟨member, least, first⟩
    -- `argmin` orders equal ranks by position; cut at the first place of the winner, a position
    -- in front of it is less than the length of the front.
    obtain ⟨before, after, rfl, fresh⟩ := List.eq_append_cons_of_mem member
    refine ⟨before, after, rfl, ?_, ?_⟩
    · intro p earlier
      by_contra notBehind
      have place := first p (by simp [earlier]) (not_lt.mp notBehind)
      rw [List.idxOf_append_of_notMem fresh, List.idxOf_append_of_mem earlier] at place
      have inside := List.idxOf_lt_length_iff.mpr earlier
      omega
    · intro p later
      exact least p (by simp [later])
  · rintro ⟨before, after, rfl, ahead, least⟩
    have fresh : winner ∉ before := fun member => lt_irrefl _ (ahead winner member)
    refine ⟨by simp, ?_, ?_⟩
    · intro p member
      rcases List.mem_append.mp member with earlier | rest
      · exact le_of_lt (ahead p earlier)
      · rcases List.mem_cons.mp rest with rfl | later
        · exact le_refl _
        · exact least p later
    · intro p member notBehind
      have place : p ∉ before := fun earlier => not_lt_of_ge notBehind (ahead p earlier)
      rw [List.idxOf_append_of_notMem fresh, List.idxOf_append_of_notMem place,
        List.idxOf_cons_self]
      omega

variable {direction : Direction} {α : Type}

theorem keep_none (next : Priced) : keep direction none next = some next := rfl

theorem keep_some (current next : Priced) :
    keep direction (some current) next =
      if rank direction next < rank direction current then some next else some current := by
  simp only [keep, better_iff]

theorem keep_keep (best : Option Priced) (first second : Priced) :
    keep direction (keep direction best first) second =
      (keep direction (some first) second).bind (keep direction best) := by
  cases best with
  | none =>
      simp only [keep_none, keep_some]
      split <;> rfl
  | some current =>
      rcases lt_or_ge (rank direction first) (rank direction current) with ahead | behind
      · rcases lt_or_ge (rank direction second) (rank direction first) with ahead' | behind'
        · simp [keep_some, ahead, ahead', ahead'.trans ahead]
        · simp [keep_some, ahead, not_lt_of_ge behind']
      · rcases lt_or_ge (rank direction second) (rank direction first) with ahead' | behind'
        · simp [keep_some, not_lt_of_ge behind, ahead']
        · simp [keep_some, not_lt_of_ge behind, not_lt_of_ge behind',
            not_lt_of_ge (behind.trans behind')]

theorem foldl_keep (best : Option Priced) (offers : List Priced) :
    offers.foldl (keep direction) best =
      (best? direction offers).elim best (keep direction best) := by
  induction offers using List.reverseRecOn with
  | nil => rfl
  | append_singleton offers last ih =>
      have whole : best? direction (offers ++ [last]) =
          keep direction (best? direction offers) last := by
        rw [best?, List.foldl_append]
        rfl
      rw [List.foldl_append, ih, whole]
      cases best? direction offers with
      | none => rfl
      | some winner =>
          change keep direction (keep direction best winner) last = _
          rw [keep_keep, keep_some]
          split <;> rfl

theorem rank_le_of_best? {offers : List Priced} {winner p : Priced}
    (best : best? direction offers = some winner) (member : p ∈ offers) :
    rank direction winner ≤ rank direction p := by
  rw [best?_eq_argmin] at best
  exact List.le_of_mem_argmin member best

theorem mem_of_best? {offers : List Priced} {winner : Priced}
    (best : best? direction offers = some winner) : winner ∈ offers := by
  rw [best?_eq_argmin] at best
  exact List.argmin_mem best

theorem best?_append (front rest : List Priced) :
    best? direction (front ++ rest) =
      (best? direction rest).elim (best? direction front)
        (keep direction (best? direction front)) := by
  rw [best?, List.foldl_append, foldl_keep]
  rfl

/-- The winner of all groups together is the winner among the winners of the groups. -/
theorem best?_flatMap (groups : List α) (offers : α → List Priced) :
    best? direction (groups.flatMap offers) =
      best? direction (groups.filterMap fun group => best? direction (offers group)) := by
  induction groups with
  | nil => rfl
  | cons group groups ih =>
      rw [List.flatMap_cons, best?_append, ih]
      cases won : best? direction (offers group) with
      | none =>
          simp only [List.filterMap_cons, won]
          cases best? direction (groups.filterMap fun group => best? direction (offers group)) <;>
            rfl
      | some winner =>
          simp only [List.filterMap_cons, won]
          exact (best?_append [winner] _).symm

end Priced

end SwapDesk
