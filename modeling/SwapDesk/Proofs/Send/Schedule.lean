import Mathlib.Data.Rat.Floor
import SwapDesk.Proofs.Send.FruitlessPolls
import SwapDesk.Settings.PerChain

/-!
When a wait polls. Slow calls move its ticks in two ways: a tick that is taken a little late leaves
the later ones in place, and one that is taken later than that moves all of them. Either way two
receipt polls are nearly a period apart, so that there is room for only so many before the timeout.
-/

namespace SwapDesk

namespace WaitScript

variable (script : WaitScript)

def reads (k : Nat) : Bool :=
  (Confirmation.mined? (script.receipt k)).isSome

def callTime (k : Nat) : Nat :=
  script.receiptLatency k +
    if script.reads k then script.headLatency ((List.range k).countP script.reads) else 0

end WaitScript

namespace Confirmation

variable (policy : ConfirmationPolicy) (script : WaitScript)

/-- When the block number is read after a receipt poll that is given by its time and number, unless
there is nothing to read it for or the wait is over by then. -/
def readAfter (poll : Nat × Nat) : Option Nat :=
  let answered := poll.1 + script.receiptLatency poll.2
  if script.reads poll.2 ∧ answered < stop policy script then some answered else none

def readings (times : List Nat) : List Nat :=
  times.zipIdx.filterMap (readAfter policy script)

/-- How the polls of a wait are spread over time. There is a next receipt poll unless the wait has
brought a receipt or is stopped by the latest time at which that poll could begin. -/
structure OnSchedule (w : Wait) : Prop where
  first : ∀ t, w.receiptPolls[0]? = some t → t = 0
  spaced : ∀ k t t', w.receiptPolls[k]? = some t → w.receiptPolls[k + 1]? = some t' →
    t + policy.pollMs ≤ t' + 5
  apart : ∀ k t t', w.receiptPolls[k]? = some t → w.receiptPolls[k + 1]? = some t' →
    t + script.callTime k ≤ t'
  prompt : ∀ k t t', w.receiptPolls[k]? = some t → w.receiptPolls[k + 1]? = some t' →
    t' ≤ t + max policy.pollMs (script.callTime k)
  continues : ∀ k t, w.receiptPolls[k]? = some t → w.receiptPolls[k + 1]? = none →
    (∃ receipt, w.ending = .confirmed receipt) ∨
      stop policy script ≤ t + max policy.pollMs (script.callTime k)
  steady : ∀ k t, w.receiptPolls[k]? = some t → (∀ j < k, script.callTime j < policy.pollMs) →
    t = k * policy.pollMs
  reads : w.headPolls = readings policy script w.receiptPolls

variable {policy script}

/-! ## Ticks -/

theorem le_nextDue (period due taken : Nat) :
    taken + period ≤ nextDue period due taken + tolerance := by
  unfold nextDue
  split <;> omega

theorem nextDue_of_punctual (period due : Nat) : nextDue period due due = due + period :=
  if_neg (Nat.not_lt.mpr (Nat.le_add_right due tolerance))

theorem ended_round (k : Nat) :
    (round policy script k).ended script =
      (round policy script k).taken + script.callTime k := by
  rw [Round.ended, Round.answered, Round.mined?, receipts_round, heads_round_eq_countP,
    Nat.add_assoc]
  rfl

theorem ended_le_taken_succ (k : Nat) :
    (round policy script k).ended script ≤ (round policy script (k + 1)).taken :=
  Nat.le_max_right _ _

theorem taken_succ_spaced (k : Nat) :
    (round policy script k).taken + policy.pollMs ≤
      (round policy script (k + 1)).taken + tolerance := by
  have due := le_nextDue policy.pollMs (round policy script k).due (round policy script k).taken
  have inTime : (round policy script (k + 1)).due ≤ (round policy script (k + 1)).taken :=
    Nat.le_max_left _ _
  exact Nat.le_trans due (Nat.add_le_add_right inTime tolerance)

theorem nextDue_le {due taken : Nat} (inTime : due ≤ taken) (period : Nat) :
    nextDue period due taken ≤ taken + period := by
  unfold nextDue
  split <;> omega

theorem taken_succ_le (k : Nat) :
    (round policy script (k + 1)).taken ≤
      (round policy script k).taken + max policy.pollMs (script.callTime k) := by
  have inTime : (round policy script k).due ≤ (round policy script k).taken := Nat.le_max_left _ _
  have due : (round policy script (k + 1)).due ≤ (round policy script k).taken + policy.pollMs :=
    nextDue_le inTime policy.pollMs
  have ready : (round policy script (k + 1)).ready =
      (round policy script k).taken + script.callTime k :=
    ended_round k
  rw [Round.taken, ready]
  omega

theorem taken_of_quick {k : Nat} (quick : ∀ j < k, script.callTime j < policy.pollMs) :
    (round policy script k).due = k * policy.pollMs ∧
      (round policy script k).taken = k * policy.pollMs := by
  induction k with
  | zero => simp [round, Round.taken]
  | succ k ih =>
      obtain ⟨due, taken⟩ := ih fun j earlier => quick j (Nat.lt_succ_of_lt earlier)
      have nextTick : (round policy script (k + 1)).due = (k + 1) * policy.pollMs := by
        change nextDue policy.pollMs (round policy script k).due (round policy script k).taken = _
        rw [due, taken, nextDue_of_punctual, Nat.succ_mul]
      have ended : (round policy script (k + 1)).ready ≤ (k + 1) * policy.pollMs := by
        change (round policy script k).ended script ≤ _
        rw [ended_round, taken, Nat.succ_mul]
        exact Nat.add_le_add_left (Nat.le_of_lt (quick k (Nat.lt_succ_self k))) _
      refine ⟨nextTick, ?_⟩
      rw [Round.taken, nextTick, Nat.max_eq_left ended]

theorem mul_le_taken (long : tolerance < policy.pollMs) (k : Nat) :
    k * (policy.pollMs - tolerance) ≤ (round policy script k).taken := by
  induction k with
  | zero =>
      rw [Nat.zero_mul]
      exact Nat.zero_le _
  | succ k ih =>
      have spaced : (round policy script k).taken + policy.pollMs ≤
          (round policy script (k + 1)).taken + tolerance :=
        taken_succ_spaced k
      rw [Nat.succ_mul]
      omega

/-! ## Receipt polls -/

theorem scheduled_of_polled {k t : Nat} (polled : (wait policy script).receiptPolls[k]? = some t) :
    policy.pollMs ≠ 0 := by
  intro instant
  rw [wait_of_unscheduled instant] at polled
  split at polled
  · simp at polled
  · exact nomatch polled

theorem taken_of_polled {k t : Nat} (polled : (wait policy script).receiptPolls[k]? = some t) :
    t = (round policy script k).taken ∧ t < stop policy script := by
  have outcome : Outcome policy script (wait policy script) :=
    outcome_wait (scheduled_of_polled polled)
  obtain ⟨n, ends⟩ := outcome.endsIn
  obtain ⟨_, taken⟩ := taken_of_getElem? (EndsIn.getElem?_of_begins ends.receiptPolls polled)
  exact ⟨taken, ends.inTime t (.inl (List.mem_of_getElem? polled))⟩

theorem length_receiptPollsBefore (n : Nat) : (receiptPollsBefore policy script n).length = n := by
  rw [receiptPollsBefore, List.length_map, List.length_range]

theorem getElem?_begun {n k : Nat}
    (before : ∀ k < n, Passes policy script (round policy script k)) (reached : k ≤ n)
    (inTime : (round policy script k).taken < stop policy script) :
    (begun policy script (receiptPollsBefore policy script (n + 1)))[k]? =
      some (round policy script k).taken := by
  rw [receiptPollsBefore_succ, begun_append, begun_receiptPollsBefore before]
  rcases Nat.lt_or_eq_of_le reached with earlier | rfl
  · have inside : k < (receiptPollsBefore policy script n).length := by
      rwa [length_receiptPollsBefore]
    rw [List.getElem?_append_left inside, receiptPollsBefore, List.getElem?_map,
      List.getElem?_range earlier]
    rfl
  · have size : (receiptPollsBefore policy script k).length = k := length_receiptPollsBefore k
    rw [begun_of_lt (by simpa using inTime), List.getElem?_append_right (Nat.le_of_eq size), size,
      Nat.sub_self]
    rfl

theorem continues_wait {k t : Nat} (polled : (wait policy script).receiptPolls[k]? = some t)
    (last : (wait policy script).receiptPolls[k + 1]? = none) :
    (∃ receipt, (wait policy script).ending = .confirmed receipt) ∨
      stop policy script ≤ t + max policy.pollMs (script.callTime k) := by
  obtain ⟨rfl, _⟩ := taken_of_polled polled
  have outcome : Outcome policy script (wait policy script) :=
    outcome_wait (scheduled_of_polled polled)
  generalize wait policy script = w at polled last outcome ⊢
  cases outcome with
  | found => exact .inl ⟨_, rfl⟩
  | @cutOff n before cutOff =>
      apply Or.inr
      rcases Nat.lt_or_ge k n with earlier | here
      · apply Nat.le_trans _ (taken_succ_le k)
        by_contra inTime
        rw [getElem?_begun before earlier (Nat.lt_of_not_le inTime)] at last
        exact nomatch last
      · obtain ⟨inside, _⟩ := List.getElem?_eq_some_iff.mp polled
        have few := Nat.lt_of_lt_of_le inside (List.length_filter_le _ _)
        rw [length_receiptPollsBefore] at few
        obtain rfl : k = n := by omega
        rw [ended_round] at cutOff
        exact Nat.le_trans cutOff (Nat.add_le_add_left (Nat.le_max_right _ _) _)

theorem stop_le_timeout : stop policy script ≤ policy.timeoutMs :=
  Nat.le_trans stop_le_deadline (Nat.min_le_left _ _)

theorem length_receiptPolls_le (long : tolerance < policy.pollMs) :
    (wait policy script).receiptPolls.length ≤
      ⌈(policy.timeoutMs : ℚ) / (policy.pollMs - tolerance : ℕ)⌉₊ := by
  generalize polls : (wait policy script).receiptPolls = times
  rcases times.eq_nil_or_concat with rfl | ⟨front, last, rfl⟩
  · exact Nat.zero_le _
  · have polled : (wait policy script).receiptPolls[front.length]? = some last := by
      rw [polls, List.concat_eq_append, List.getElem?_concat_length]
    obtain ⟨taken, inTime⟩ := taken_of_polled polled
    have room : front.length * (policy.pollMs - tolerance) < policy.timeoutMs :=
      calc front.length * (policy.pollMs - tolerance)
          ≤ last := taken ▸ mul_le_taken long front.length
        _ < stop policy script := inTime
        _ ≤ policy.timeoutMs := stop_le_timeout
    have period : (0 : ℚ) < (policy.pollMs - tolerance : ℕ) := by
      exact_mod_cast Nat.sub_pos_of_lt long
    rw [List.length_concat, Nat.succ_le_iff, Nat.lt_ceil, lt_div_iff₀ period]
    exact_mod_cast room

theorem head?_receiptPolls (scheduled : policy.pollMs ≠ 0) (begins : 0 < stop policy script) :
    (wait policy script).receiptPolls.head? = some 0 := by
  have taken : (round policy script 0).taken = 0 := rfl
  rw [wait_eq_pollFrom scheduled, pollFrom_eq scheduled, taken, if_neg (Nat.not_le.mpr begins)]
  split
  · rfl
  · rfl

/-! ## Readings of the block number -/

theorem toList_readAfter (k : Nat) :
    (readAfter policy script ((round policy script k).taken, k)).toList =
      begun policy script ((round policy script k).headPolls script) := by
  have answered : (round policy script k).taken + script.receiptLatency k =
      (round policy script k).answered script := by
    rw [Round.answered, receipts_round]
  have mined : ((round policy script k).mined? script).isSome = script.reads k := by
    rw [Round.mined?, receipts_round]
    rfl
  simp only [readAfter, answered, Round.headPolls, mined]
  by_cases reads : script.reads k = true
  · by_cases inTime : (round policy script k).answered script < stop policy script
    · simp [reads, inTime, begun]
    · simp [reads, inTime, begun]
  · simp [reads, begun]

theorem readings_receiptPollsBefore_concat (n : Nat) :
    readings policy script (receiptPollsBefore policy script n ++ [(round policy script n).taken]) =
      readings policy script (receiptPollsBefore policy script n) ++
        begun policy script ((round policy script n).headPolls script) := by
  rw [readings, List.zipIdx_append, List.filterMap_append, length_receiptPollsBefore, Nat.zero_add,
    List.zipIdx_singleton, ← toList_readAfter, readings]
  congr 1

theorem readings_receiptPollsBefore (n : Nat) :
    readings policy script (receiptPollsBefore policy script n) =
      begun policy script (headPollsBefore policy script n) := by
  induction n with
  | zero => rfl
  | succ n ih =>
      rw [receiptPollsBefore_succ, readings_receiptPollsBefore_concat, ih, headPollsBefore_succ,
        begun_append]

theorem readings_begun {n : Nat}
    (before : ∀ k < n, Passes policy script (round policy script k)) :
    readings policy script (begun policy script (receiptPollsBefore policy script (n + 1))) =
      begun policy script (headPollsBefore policy script (n + 1)) := by
  rw [receiptPollsBefore_succ, begun_append, begun_receiptPollsBefore before]
  rcases Nat.lt_or_ge (round policy script n).taken (stop policy script) with inTime | late
  · rw [begun_of_lt (by simpa using inTime), ← receiptPollsBefore_succ,
      readings_receiptPollsBefore]
  · have unread : begun policy script ((round policy script n).headPolls script) = [] := by
      apply begun_of_le
      intro t member
      rw [Round.mem_headPolls member]
      exact Nat.le_trans late Round.taken_le_answered
    rw [begun_of_le (by simpa using late), List.append_nil, readings_receiptPollsBefore,
      headPollsBefore_succ, begun_append, unread, List.append_nil]

theorem readings_receiptPolls :
    (wait policy script).headPolls =
      readings policy script (wait policy script).receiptPolls := by
  by_cases instant : policy.pollMs = 0
  · rw [wait_of_unscheduled instant]
    split
    · rw [headPolls_atStop, receiptPolls_atStop]
      rfl
    · rfl
  · have outcome : Outcome policy script (wait policy script) := outcome_wait instant
    generalize wait policy script = w at outcome ⊢
    cases outcome with
    | @found n _ before inTime found =>
        rw [readings_receiptPollsBefore, begun_of_lt]
        intro t member
        exact Nat.lt_of_le_of_lt (le_ended_of_mem_headPollsBefore member) inTime
    | cutOff before cutOff => exact (readings_begun before).symm

/-! ## Waits -/

theorem onSchedule_wait : OnSchedule policy script (wait policy script) where
  first t polled := (taken_of_polled polled).1
  spaced k t t' polled polled' := by
    obtain ⟨rfl, _⟩ := taken_of_polled polled
    obtain ⟨rfl, _⟩ := taken_of_polled polled'
    exact taken_succ_spaced k
  apart k t t' polled polled' := by
    obtain ⟨rfl, _⟩ := taken_of_polled polled
    obtain ⟨rfl, _⟩ := taken_of_polled polled'
    rw [← ended_round]
    exact ended_le_taken_succ k
  prompt k t t' polled polled' := by
    obtain ⟨rfl, _⟩ := taken_of_polled polled
    obtain ⟨rfl, _⟩ := taken_of_polled polled'
    exact taken_succ_le k
  continues _ _ := continues_wait
  steady k t polled quick := by
    obtain ⟨rfl, _⟩ := taken_of_polled polled
    exact (taken_of_quick quick).2
  reads := readings_receiptPolls

theorem elapsed_le_timeout (scheduled : policy.pollMs ≠ 0) :
    (wait policy script).elapsed ≤ policy.timeoutMs := by
  have outcome : Outcome policy script (wait policy script) := outcome_wait scheduled
  obtain ⟨n, ends⟩ := outcome.endsIn
  exact Nat.le_trans ends.elapsed_le_stop stop_le_timeout

end Confirmation

namespace Settings

variable (s : Settings) (chain : UInt64)

theorem le_pollMs_policyFor : 100 ≤ (s.policyFor chain).pollMs :=
  Nat.le_max_right _ _

theorem pollMs_le_timeoutMs_policyFor :
    (s.policyFor chain).pollMs ≤ (s.policyFor chain).timeoutMs :=
  Nat.le_max_right _ _

end Settings

namespace Confirmation

theorem head?_receiptPolls_policyFor (s : Settings) (chain : UInt64)
    (runs : script.cancelAt ≠ some 0) :
    (wait (s.policyFor chain) script).receiptPolls.head? = some 0 := by
  have poll := s.le_pollMs_policyFor chain
  have timeout := s.pollMs_le_timeoutMs_policyFor chain
  apply head?_receiptPolls (by omega)
  refine lt_stop_iff.mpr ⟨?_, ?_⟩
  · exact Nat.lt_min.mpr ⟨by omega, by decide⟩
  · intro c requested
    apply Nat.pos_of_ne_zero
    rintro rfl
    exact runs requested

/-- Every wait keeps to its schedule. With a period above the tolerance of ticks it ends, by its
timeout, after a bounded number of receipt polls. Settings never give a period of no length, and
with them a wait polls at once unless it is cancelled at its start. -/
theorem wait_keeps_schedule (policy : ConfirmationPolicy) (script : WaitScript) :
    let w := wait policy script
    OnSchedule policy script w ∧
    (5 < policy.pollMs →
      w.receiptPolls.length ≤ 1 + ⌈(policy.timeoutMs : ℚ) / (policy.pollMs - 5)⌉₊ ∧
      w.ending ≠ .crashed ∧ w.elapsed ≤ policy.timeoutMs) ∧
    ∀ (s : Settings) chain, policy = s.policyFor chain →
      100 ≤ policy.pollMs ∧ policy.pollMs ≤ policy.timeoutMs ∧
      (script.cancelAt ≠ some 0 → w.receiptPolls.head? = some 0) := by
  intro w
  refine ⟨onSchedule_wait, ?_, ?_⟩
  · intro long
    have scheduled : policy.pollMs ≠ 0 := by omega
    have count : w.receiptPolls.length ≤
        ⌈(policy.timeoutMs : ℚ) / (policy.pollMs - 5 : ℕ)⌉₊ :=
      length_receiptPolls_le long
    rw [Nat.cast_sub (Nat.le_of_lt long)] at count
    refine ⟨?_, not_crashed_wait scheduled, elapsed_le_timeout scheduled⟩
    exact Nat.le_trans count (Nat.le_add_left _ 1)
  · rintro s chain rfl
    exact ⟨s.le_pollMs_policyFor chain, s.pollMs_le_timeoutMs_policyFor chain,
      head?_receiptPolls_policyFor s chain⟩

end Confirmation

namespace Sample

/-- The second receipt takes longer than a period, and the ticks after it are moved. -/
def sluggish : WaitScript where
  receipt
    | 0 => .ok none
    | _ => .ok (some (receipt 10))
  head n := .ok (11 + UInt64.ofNat n)
  receiptLatency
    | 1 => 130
    | _ => 20
  headLatency _ := 3

end Sample

namespace Confirmation

theorem wait_keeps_schedule_sluggish :
    let w := wait Sample.policy Sample.sluggish
    w.receiptPolls = [0, 100, 233, 333] ∧ w.headPolls = [230, 253, 353] ∧
      OnSchedule Sample.policy Sample.sluggish w ∧ 5 < Sample.policy.pollMs ∧
      w.receiptPolls.length ≤ 1 + ⌈((1000 : ℕ) : ℚ) / ((100 : ℕ) - 5)⌉₊ ∧
      (wait (Settings.policyFor {} 1) Sample.sluggish).receiptPolls.head? = some 0 := by
  intro w
  have polls : w.receiptPolls = [0, 100, 233, 333] ∧ w.headPolls = [230, 253, 353] := by
    decide +kernel
  obtain ⟨schedule, bounded, _⟩ := wait_keeps_schedule Sample.policy Sample.sluggish
  obtain ⟨_, _, configured⟩ := wait_keeps_schedule (Settings.policyFor {} 1) Sample.sluggish
  have long : 5 < Sample.policy.pollMs := by decide
  obtain ⟨count, _, _⟩ := bounded long
  obtain ⟨_, _, begins⟩ := configured {} 1 rfl
  exact ⟨polls.1, polls.2, schedule, long, count, begins nofun⟩

end Confirmation

end SwapDesk
