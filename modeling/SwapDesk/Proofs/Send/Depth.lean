import SwapDesk.Proofs.Sample
import SwapDesk.Proofs.Send.Rounds

namespace SwapDesk

namespace Confirmation

variable (policy : ConfirmationPolicy) (script : WaitScript)

/-- Round `n` finds the receipt, and no round before it finds any. -/
structure FirstFind (n : Nat) (receipt : Receipt) : Prop where
  finds : (round policy script n).Finds policy script receipt
  first : ∀ k < n, ∀ other, ¬ (round policy script k).Finds policy script other

variable {policy script}

theorem firstFind_iff {n : Nat} {receipt : Receipt} :
    FirstFind policy script n receipt ↔
      (round policy script n).found? policy script = some receipt ∧
        ∀ k < n, (round policy script k).found? policy script = none := by
  constructor
  · rintro ⟨finds, first⟩
    refine ⟨Round.found?_eq_some_iff.mpr finds, ?_⟩
    intro k earlier
    apply Option.eq_none_iff_forall_ne_some.mpr
    intro other found
    exact first k earlier other (Round.found?_eq_some_iff.mp found)
  · rintro ⟨found, nothing⟩
    refine ⟨Round.found?_eq_some_iff.mp found, ?_⟩
    intro k earlier other finds
    exact nomatch (nothing k earlier).symm.trans (Round.found?_eq_some_iff.mpr finds)

theorem FirstFind.unique {n n' : Nat} {receipt receipt' : Receipt}
    (first : FirstFind policy script n receipt) (first' : FirstFind policy script n' receipt') :
    n = n' ∧ receipt = receipt' := by
  have same : n = n' := by
    rcases Nat.lt_trichotomy n n' with before | same | after
    · exact absurd first.finds (first'.first n before receipt)
    · exact same
    · exact absurd first'.finds (first.first n' after receipt')
  subst same
  have found := (firstFind_iff.mp first).1
  have found' := (firstFind_iff.mp first').1
  exact ⟨rfl, Option.some.inj (found.symm.trans found')⟩

theorem lt_stop_iff {t : Nat} :
    t < stop policy script ↔
      t < deadline policy ∧ ∀ c, script.cancelAt = some c → t < c := by
  unfold stop
  cases script.cancelAt with
  | none => simp
  | some c =>
      rw [Nat.lt_min]
      simp [and_comm]

theorem receipts_round (n : Nat) : (round policy script n).receipts = n := by
  induction n with
  | zero => rfl
  | succ n ih => exact congrArg Nat.succ ih

theorem heads_round (n : Nat) :
    (round policy script n).heads = (headPollsBefore policy script n).length := by
  induction n with
  | zero => rfl
  | succ n ih =>
      rw [headPollsBefore_succ, List.length_append, ← ih]
      rfl

theorem ended_round_mono {k n : Nat} (later : k ≤ n) :
    (round policy script k).ended script ≤ (round policy script n).ended script := by
  induction later with
  | refl => exact Nat.le_refl _
  | step _ ih => exact Nat.le_trans ih Round.ended_le_next

theorem not_confirmed_atStop (receipt : Receipt) :
    (atStop policy script).ending ≠ .confirmed receipt := by
  unfold atStop
  split
  · exact nofun
  · split <;> exact nofun

theorem not_crashed_atStop : (atStop policy script).ending ≠ .crashed := by
  unfold atStop
  split
  · exact nofun
  · split <;> exact nofun

theorem not_crashed_wait (scheduled : policy.pollMs ≠ 0) :
    (wait policy script).ending ≠ .crashed := by
  have outcome : Outcome policy script (wait policy script) := outcome_wait scheduled
  generalize wait policy script = w at outcome ⊢
  cases outcome with
  | found => exact nofun
  | cutOff => exact not_crashed_atStop

theorem result_eq_ok_iff {w : Wait} {hash : Hash} {uid : Uid} {receipt : Receipt} :
    w.result policy hash uid = .ok receipt ↔ w.ending = .confirmed receipt := by
  unfold Wait.result
  cases w.ending <;> simp

theorem FirstFind.of_result (scheduled : 0 < policy.pollMs)
    {hash : Hash} {uid : Uid} {receipt : Receipt}
    (returned : (wait policy script).result policy hash uid = .ok receipt) :
    ∃ n, FirstFind policy script n receipt ∧
      (round policy script n).ended script < stop policy script ∧
      wait policy script =
        { ending := .confirmed receipt
          elapsed := (round policy script n).ended script
          receiptPolls := receiptPollsBefore policy script (n + 1)
          headPolls := headPollsBefore policy script (n + 1) } := by
  have ending := result_eq_ok_iff.mp returned
  have outcome : Outcome policy script (wait policy script) :=
    outcome_wait (Nat.ne_of_gt scheduled)
  generalize wait policy script = w at ending outcome
  cases outcome with
  | @found n _ before inTime found =>
      cases ending
      exact ⟨n, firstFind_iff.mpr ⟨found, fun k earlier => (before k earlier).nothing⟩, inTime, rfl⟩
  | cutOff => exact absurd ending (not_confirmed_atStop receipt)

theorem FirstFind.ending {n : Nat} {receipt : Receipt} (first : FirstFind policy script n receipt)
    (scheduled : 0 < policy.pollMs)
    (inTime : (round policy script n).ended script < stop policy script) :
    (wait policy script).ending = .confirmed receipt ∧
      (wait policy script).elapsed = (round policy script n).ended script := by
  have outcome : Outcome policy script (wait policy script) :=
    outcome_wait (Nat.ne_of_gt scheduled)
  generalize wait policy script = w at outcome
  cases outcome with
  | @found n' receipt' before _ found =>
      have first' : FirstFind policy script n' receipt' :=
        firstFind_iff.mpr ⟨found, fun k earlier => (before k earlier).nothing⟩
      obtain ⟨rfl, rfl⟩ := first.unique first'
      exact ⟨rfl, rfl⟩
  | @cutOff n' before cutOff =>
      exfalso
      rcases Nat.lt_or_ge n n' with passed | notBefore
      · have nothing := (before n passed).nothing
        exact nomatch nothing.symm.trans (firstFind_iff.mp first).1
      · have late := Nat.le_trans cutOff (ended_round_mono notBefore)
        exact Nat.not_lt.mpr late inTime

/-- A wait returns a receipt only from its last receipt poll, after whose answer it has read a
block number that is deep enough for the receipt's block, and no earlier round has had such a pair.
A first round with such a pair that is over before the deadline and before any cancellation ends
the wait at that moment. -/
theorem wait_returns_first_find (scheduled : 0 < policy.pollMs) (hash : Hash) (uid : Uid) :
    let w := wait policy script
    (∀ receipt, w.result policy hash uid = .ok receipt →
      ∃ n, FirstFind policy script n receipt ∧
        w.elapsed = (round policy script n).ended script ∧
        w.receiptPolls = receiptPollsBefore policy script (n + 1) ∧
        w.headPolls = headPollsBefore policy script (n + 1) ∧
        w.receiptPolls.length = (round policy script n).receipts + 1 ∧
        w.headPolls.length = (round policy script n).heads + 1) ∧
    ∀ n receipt, FirstFind policy script n receipt →
      (round policy script n).ended script < deadline policy →
      (∀ c, script.cancelAt = some c → (round policy script n).ended script < c) →
      w.result policy hash uid = .ok receipt ∧
        w.elapsed = (round policy script n).ended script := by
  intro w
  constructor
  · intro receipt returned
    obtain ⟨n, first, _, whole⟩ := FirstFind.of_result scheduled returned
    have polls : w.receiptPolls = receiptPollsBefore policy script (n + 1) :=
      congrArg Wait.receiptPolls whole
    have reads : w.headPolls = headPollsBefore policy script (n + 1) :=
      congrArg Wait.headPolls whole
    refine ⟨n, first, congrArg Wait.elapsed whole, polls, reads, ?_, ?_⟩
    · simp [polls, receiptPollsBefore, receipts_round]
    · rw [reads, headPollsBefore_succ, List.length_append, ← heads_round,
        Round.headPolls_of_found (firstFind_iff.mp first).1]
      rfl
  · intro n receipt first beforeDeadline beforeCancel
    have inTime := lt_stop_iff.mpr ⟨beforeDeadline, beforeCancel⟩
    obtain ⟨ending, elapsed⟩ := first.ending scheduled inTime
    exact ⟨result_eq_ok_iff.mpr ending, elapsed⟩

theorem wait_returns_first_find_reorganized :
    let w := wait Sample.policy Sample.reorganized
    FirstFind Sample.policy Sample.reorganized 2 (Sample.receipt 12) ∧
      w.result Sample.policy ⟨1⟩ "run" = .ok (Sample.receipt 12) ∧ w.elapsed = 209 := by
  have first : FirstFind Sample.policy Sample.reorganized 2 (Sample.receipt 12) :=
    firstFind_iff.mpr ⟨by decide, by decide⟩
  have scheduled : 0 < Sample.policy.pollMs := by decide
  refine ⟨first, ?_⟩
  apply (wait_returns_first_find scheduled ⟨1⟩ "run").2 2 (Sample.receipt 12) first
  · decide
  · exact nofun

end Confirmation

end SwapDesk
