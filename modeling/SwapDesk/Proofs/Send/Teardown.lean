import Mathlib.Data.List.Basic
import Mathlib.Logic.Function.Basic
import SwapDesk.Proofs.Send.Depth

/-!
How a wait ends, and what it does until then. It ends with a receipt before the stop, or at the stop
without one. No poll begins at the stop or later, and an answer that is not there by the stop plays
no part.
-/

namespace SwapDesk

namespace WaitScript

def withReceipt (script : WaitScript) (n : Nat) (answer : Except Failure (Option Receipt)) :
    WaitScript :=
  { script with receipt := Function.update script.receipt n answer }

def withHead (script : WaitScript) (m : Nat) (answer : Except Failure UInt64) : WaitScript :=
  { script with head := Function.update script.head m answer }

theorem receipt_withReceipt_of_ne {script : WaitScript} {n k : Nat} (different : k ≠ n)
    (answer : Except Failure (Option Receipt)) :
    (script.withReceipt n answer).receipt k = script.receipt k :=
  Function.update_of_ne different _ _

theorem head_withHead_of_ne {script : WaitScript} {m k : Nat} (different : k ≠ m)
    (answer : Except Failure UInt64) : (script.withHead m answer).head k = script.head k :=
  Function.update_of_ne different _ _

end WaitScript

namespace Confirmation

variable {policy : ConfirmationPolicy} {script script' : WaitScript} {r : Round}

/-! ## Answers that come in time -/

variable (policy script script') in
/-- The scripts keep the same times, and in every round they agree on what comes in time: on whether
there is a receipt to go on with, and on what the round finds. -/
structure AgreeInTime : Prop where
  receiptLatency : script'.receiptLatency = script.receiptLatency
  headLatency : script'.headLatency = script.headLatency
  cancelAt : script'.cancelAt = script.cancelAt
  mined : ∀ n, (round policy script n).answered script < stop policy script →
    (round policy script n).mined? script' = (round policy script n).mined? script
  found : ∀ n, (round policy script n).ended script < stop policy script →
    (round policy script n).found? policy script' = (round policy script n).found? policy script

namespace AgreeInTime

theorem stop_eq (agree : AgreeInTime policy script script') :
    stop policy script' = stop policy script := by
  rw [stop, stop, agree.cancelAt]

theorem atStop_eq (agree : AgreeInTime policy script script') :
    atStop policy script' = atStop policy script := by
  rw [atStop, atStop, agree.cancelAt]

theorem begun_eq (agree : AgreeInTime policy script script') (times : List Nat) :
    begun policy script' times = begun policy script times := by
  rw [begun, begun, agree.stop_eq]

theorem answered_eq (agree : AgreeInTime policy script script') (r : Round) :
    r.answered script' = r.answered script := by
  rw [Round.answered, Round.answered, agree.receiptLatency]

theorem headPolls_eq (mined : r.mined? script' = r.mined? script)
    (agree : AgreeInTime policy script script') : r.headPolls script' = r.headPolls script := by
  rw [Round.headPolls, Round.headPolls, mined, agree.answered_eq]

theorem ended_eq (mined : r.mined? script' = r.mined? script)
    (agree : AgreeInTime policy script script') : r.ended script' = r.ended script := by
  rw [Round.ended, Round.ended, mined, agree.answered_eq, agree.headLatency]

theorem next_eq (mined : r.mined? script' = r.mined? script)
    (agree : AgreeInTime policy script script') :
    r.next policy script' = r.next policy script := by
  rw [Round.next, Round.next, agree.headPolls_eq mined, agree.ended_eq mined]

theorem round_eq (agree : AgreeInTime policy script script') {n : Nat}
    (before : ∀ k < n, Passes policy script (round policy script k)) :
    round policy script' n = round policy script n := by
  induction n with
  | zero => rfl
  | succ n ih =>
      have answered := Nat.lt_of_le_of_lt Round.answered_le_ended (before n (by omega)).inTime
      rw [round, round, ih fun k earlier => before k (by omega),
        agree.next_eq (agree.mined n answered)]

theorem passes (agree : AgreeInTime policy script script') {n : Nat}
    (before : ∀ k ≤ n, Passes policy script (round policy script k)) :
    Passes policy script' (round policy script' n) := by
  have inTime := (before n (Nat.le_refl n)).inTime
  have answered := Nat.lt_of_le_of_lt Round.answered_le_ended inTime
  rw [agree.round_eq fun k earlier => before k (Nat.le_of_lt earlier)]
  constructor
  · rwa [agree.ended_eq (agree.mined n answered), agree.stop_eq]
  · rw [agree.found n inTime]
    exact (before n (Nat.le_refl n)).nothing

theorem pollFrom_eq (scheduled : policy.pollMs ≠ 0) (agree : AgreeInTime policy script script')
    {n : Nat} (last : ¬ Passes policy script (round policy script n)) :
    pollFrom policy script' (round policy script n) =
      pollFrom policy script (round policy script n) := by
  rcases Nat.lt_or_ge ((round policy script n).ended script) (stop policy script)
    with inTime | cutOff
  · have answered := Nat.lt_of_le_of_lt Round.answered_le_ended inTime
    have mined := agree.mined n answered
    have inTime' : (round policy script n).ended script' < stop policy script' := by
      rwa [agree.ended_eq mined, agree.stop_eq]
    cases found : (round policy script n).found? policy script with
    | none => exact absurd ⟨inTime, found⟩ last
    | some receipt =>
        have found' := (agree.found n inTime).trans found
        rw [pollFrom_of_found scheduled inTime found, pollFrom_of_found scheduled inTime' found',
          agree.ended_eq mined, agree.headPolls_eq mined]
  · rcases Nat.lt_or_ge ((round policy script n).answered script) (stop policy script)
      with answered | late
    · have mined := agree.mined n answered
      have cutOff' : stop policy script' ≤ (round policy script n).ended script' := by
        rwa [agree.ended_eq mined, agree.stop_eq]
      rw [pollFrom_of_cutOff scheduled cutOff, pollFrom_of_cutOff scheduled cutOff',
        agree.headPolls_eq mined, agree.atStop_eq, agree.begun_eq, agree.begun_eq]
    · -- The receipt is not there yet, so neither wait goes on to read the block number.
      have late' : stop policy script' ≤ (round policy script n).answered script' := by
        rwa [agree.answered_eq, agree.stop_eq]
      have unread : begun policy script ((round policy script n).headPolls script) = [] :=
        begun_of_le fun t member => (Round.mem_headPolls member).symm ▸ late
      have unread' : begun policy script' ((round policy script n).headPolls script') = [] :=
        begun_of_le fun t member => (Round.mem_headPolls member).symm ▸ late'
      rw [pollFrom_of_cutOff scheduled cutOff,
        pollFrom_of_cutOff scheduled (Nat.le_trans late' Round.answered_le_ended),
        unread, unread', agree.atStop_eq, agree.begun_eq]

theorem receiptPollsBefore_eq (agree : AgreeInTime policy script script') {n : Nat}
    (before : ∀ k < n, Passes policy script (round policy script k)) :
    receiptPollsBefore policy script' n = receiptPollsBefore policy script n := by
  refine List.map_congr_left fun k member => ?_
  have earlier := List.mem_range.mp member
  rw [agree.round_eq fun j sooner => before j (Nat.lt_trans sooner earlier)]

theorem headPollsBefore_eq (agree : AgreeInTime policy script script') {n : Nat}
    (before : ∀ k < n, Passes policy script (round policy script k)) :
    headPollsBefore policy script' n = headPollsBefore policy script n := by
  refine List.flatMap_congr fun k member => ?_
  have earlier := List.mem_range.mp member
  have answered := Nat.lt_of_le_of_lt Round.answered_le_ended (before k earlier).inTime
  rw [agree.round_eq fun j sooner => before j (Nat.lt_trans sooner earlier),
    agree.headPolls_eq (agree.mined k answered)]

theorem wait_eq (agree : AgreeInTime policy script script') (scheduled : policy.pollMs ≠ 0) :
    wait policy script' = wait policy script := by
  obtain ⟨n, before, last⟩ : ∃ n, (∀ k < n, Passes policy script (round policy script k)) ∧
      ¬ Passes policy script (round policy script n) :=
    exists_last_round scheduled
  have before' : ∀ k < n, Passes policy script' (round policy script' k) := fun k earlier =>
    agree.passes fun j sooner => before j (Nat.lt_of_le_of_lt sooner earlier)
  rw [wait_of_passes scheduled before', wait_of_passes scheduled before, agree.round_eq before,
    agree.pollFrom_eq scheduled last, agree.receiptPollsBefore_eq before,
    agree.headPollsBefore_eq before]

end AgreeInTime

/-! ## Answers that come too late -/

theorem prefix_headPollsBefore {n k : Nat} (later : n ≤ k) :
    headPollsBefore policy script n <+: headPollsBefore policy script k := by
  induction later with
  | refl => exact List.prefix_refl _
  | step _ ih =>
      rw [headPollsBefore_succ]
      exact ih.trans (List.prefix_append _ _)

theorem round_inj_of_mined {n k : Nat} (mined : ((round policy script n).mined? script).isSome)
    (mined' : ((round policy script k).mined? script).isSome)
    (same : (round policy script n).heads = (round policy script k).heads) : n = k := by
  have counts {i j : Nat} (before : i < j)
      (mined : ((round policy script i).mined? script).isSome) :
      (round policy script i).heads < (round policy script j).heads := by
    have begins : headPollsBefore policy script (i + 1) <+: headPollsBefore policy script j :=
      prefix_headPollsBefore (Nat.succ_le_of_lt before)
    have grown := begins.length_le
    have read : (round policy script i).headPolls script =
        [(round policy script i).answered script] :=
      if_pos mined
    rw [headPollsBefore_succ, read, List.length_append, ← heads_round, ← heads_round] at grown
    exact grown
  rcases Nat.lt_trichotomy n k with before | same_round | after
  · exact absurd same (Nat.ne_of_lt (counts before mined))
  · exact same_round
  · exact absurd same.symm (Nat.ne_of_lt (counts after mined'))

theorem mined?_withReceipt {n : Nat} (different : r.receipts ≠ n)
    (answer : Except Failure (Option Receipt)) :
    r.mined? (script.withReceipt n answer) = r.mined? script := by
  rw [Round.mined?, Round.mined?, WaitScript.receipt_withReceipt_of_ne different]

theorem found?_withHead {m : Nat} (different : (r.mined? script).isSome → r.heads ≠ m)
    (answer : Except Failure UInt64) :
    r.found? policy (script.withHead m answer) = r.found? policy script := by
  have same : r.mined? (script.withHead m answer) = r.mined? script := rfl
  rw [Round.found?, Round.found?, same]
  cases mined : r.mined? script with
  | none => rfl
  | some named =>
      have other := different (mined ▸ rfl)
      simp only [WaitScript.head_withHead_of_ne other]

theorem agreeInTime_withReceipt {n : Nat}
    (late : stop policy script ≤ (round policy script n).answered script)
    (answer : Except Failure (Option Receipt)) :
    AgreeInTime policy script (script.withReceipt n answer) := by
  have same (k : Nat) (answered : (round policy script k).answered script < stop policy script) :
      (round policy script k).mined? (script.withReceipt n answer) =
        (round policy script k).mined? script := by
    apply mined?_withReceipt
    rw [receipts_round]
    rintro rfl
    exact Nat.not_lt.mpr late answered
  refine ⟨rfl, rfl, rfl, same, fun k inTime => ?_⟩
  rw [Round.found?, same k (Nat.lt_of_le_of_lt Round.answered_le_ended inTime)]
  rfl

theorem agreeInTime_withHead {n : Nat} (mined : ((round policy script n).mined? script).isSome)
    (late : stop policy script ≤ (round policy script n).ended script)
    (answer : Except Failure UInt64) :
    AgreeInTime policy script (script.withHead (round policy script n).heads answer) := by
  refine ⟨rfl, rfl, rfl, fun _ _ => rfl, fun k inTime => ?_⟩
  apply found?_withHead
  intro mined' same
  cases round_inj_of_mined mined' mined same
  exact Nat.not_lt.mpr late inTime

/-! ## The polls of a wait -/

theorem prefix_begun {front last : List Nat} (inTime : begun policy script front = front)
    (short : last.length ≤ 1) : begun policy script (front ++ last) <+: front ++ last := by
  rw [begun_append, inTime, List.prefix_append_right_inj]
  match last, short with
  | [], _ => exact List.prefix_refl _
  | [t], _ =>
      rw [begun, List.filter_singleton]
      cases decide (t < stop policy script) with
      | true => exact List.prefix_refl _
      | false => exact List.nil_prefix

theorem le_ended_of_mem_receiptPollsBefore {n t : Nat}
    (member : t ∈ receiptPollsBefore policy script (n + 1)) :
    t ≤ (round policy script n).ended script := by
  obtain ⟨k, inside, rfl⟩ := List.mem_map.mp member
  have earlier := Nat.le_of_lt_succ (List.mem_range.mp inside)
  exact Nat.le_trans (Nat.le_trans Round.taken_le_answered Round.answered_le_ended)
    (ended_round_mono earlier)

theorem le_ended_of_mem_headPollsBefore {n t : Nat}
    (member : t ∈ headPollsBefore policy script (n + 1)) :
    t ≤ (round policy script n).ended script := by
  obtain ⟨k, inside, polled⟩ := List.mem_flatMap.mp member
  have earlier := Nat.le_of_lt_succ (List.mem_range.mp inside)
  rw [Round.mem_headPolls polled]
  exact Nat.le_trans Round.answered_le_ended (ended_round_mono earlier)

theorem taken_of_getElem? {n k t : Nat}
    (polled : (receiptPollsBefore policy script n)[k]? = some t) :
    k < n ∧ t = (round policy script k).taken := by
  obtain ⟨inside, here⟩ := List.getElem?_eq_some_iff.mp polled
  simp only [receiptPollsBefore, List.length_map, List.length_range] at inside
  simp only [receiptPollsBefore, List.getElem_map, List.getElem_range] at here
  exact ⟨inside, here.symm⟩

theorem answered_of_getElem? {n m t : Nat}
    (polled : (headPollsBefore policy script n)[m]? = some t) :
    ∃ k < n, (round policy script k).heads = m ∧
      ((round policy script k).mined? script).isSome ∧
      t = (round policy script k).answered script := by
  induction n with
  | zero => exact nomatch polled
  | succ n ih =>
      rw [headPollsBefore_succ] at polled
      rcases Nat.lt_or_ge m (headPollsBefore policy script n).length with before | here
      · rw [List.getElem?_append_left before] at polled
        obtain ⟨k, earlier, found⟩ := ih polled
        exact ⟨k, Nat.lt_succ_of_lt earlier, found⟩
      · rw [List.getElem?_append_right here] at polled
        have member := List.mem_of_getElem? polled
        cases mined : ((round policy script n).mined? script).isSome with
        | false => simp [Round.headPolls, mined] at member
        | true =>
            refine ⟨n, Nat.lt_succ_self n, ?_, mined, Round.mem_headPolls member⟩
            obtain ⟨inside, _⟩ := List.getElem?_eq_some_iff.mp polled
            rw [heads_round]
            simp only [Round.headPolls, mined, if_true, List.length_singleton] at inside
            omega

variable (policy script) in
/-- The wait has begun polls of the rounds up to round `n`, and it ends in that round: it is over in
time, or it is cut off at the stop. -/
structure EndsIn (w : Wait) (n : Nat) : Prop where
  receiptPolls : w.receiptPolls <+: receiptPollsBefore policy script (n + 1)
  headPolls : w.headPolls <+: headPollsBefore policy script (n + 1)
  inTime : ∀ t, t ∈ w.receiptPolls ∨ t ∈ w.headPolls → t < stop policy script
  ending : ((round policy script n).ended script < stop policy script ∧
      w.elapsed = (round policy script n).ended script) ∨
    (stop policy script ≤ (round policy script n).ended script ∧
      w.elapsed = stop policy script ∧ ∀ receipt, w.ending ≠ .confirmed receipt)

theorem elapsed_atStop : (atStop policy script).elapsed = stop policy script := by
  unfold atStop stop
  cases script.cancelAt with
  | none => rfl
  | some c =>
      by_cases inTime : c ≤ deadline policy
      · simp only [if_pos inTime, Nat.min_eq_left inTime]
      · simp only [if_neg inTime, Nat.min_eq_right (Nat.le_of_not_le inTime)]

theorem Outcome.endsIn {w : Wait} (outcome : Outcome policy script w) :
    ∃ n, EndsIn policy script w n := by
  cases outcome with
  | @found n receipt before inTime found =>
      refine ⟨n, List.prefix_refl _, List.prefix_refl _, ?_, .inl ⟨inTime, rfl⟩⟩
      rintro t (member | member)
      · exact Nat.lt_of_le_of_lt (le_ended_of_mem_receiptPollsBefore member) inTime
      · exact Nat.lt_of_le_of_lt (le_ended_of_mem_headPollsBefore member) inTime
  | @cutOff n before cutOff =>
      refine ⟨n, ?_, ?_, ?_, .inr ⟨cutOff, elapsed_atStop, not_confirmed_atStop⟩⟩
      · rw [receiptPollsBefore_succ]
        exact prefix_begun (begun_receiptPollsBefore before) (Nat.le_refl 1)
      · rw [headPollsBefore_succ]
        refine prefix_begun (begun_headPollsBefore before) ?_
        unfold Round.headPolls
        split <;> simp
      · rintro t (member | member) <;> exact of_decide_eq_true (List.mem_filter.mp member).2

namespace EndsIn

variable {w : Wait} {n : Nat}

theorem elapsed_le_stop (ends : EndsIn policy script w n) : w.elapsed ≤ stop policy script := by
  rcases ends.ending with ⟨inTime, elapsed⟩ | ⟨_, elapsed, _⟩
  · exact elapsed ▸ Nat.le_of_lt inTime
  · exact Nat.le_of_eq elapsed

theorem le_elapsed (ends : EndsIn policy script w n) {t : Nat}
    (polled : t ∈ w.receiptPolls ∨ t ∈ w.headPolls) : t ≤ w.elapsed := by
  rcases ends.ending with ⟨_, elapsed⟩ | ⟨_, elapsed, _⟩
  · rw [elapsed]
    rcases polled with member | member
    · exact le_ended_of_mem_receiptPollsBefore (ends.receiptPolls.subset member)
    · exact le_ended_of_mem_headPollsBefore (ends.headPolls.subset member)
  · exact elapsed ▸ Nat.le_of_lt (ends.inTime t polled)

theorem getElem?_of_begins {times times' : List Nat} (begins : times <+: times') {k t : Nat}
    (here : times[k]? = some t) : times'[k]? = some t := by
  obtain ⟨rest, rfl⟩ := begins
  obtain ⟨inside, _⟩ := List.getElem?_eq_some_iff.mp here
  rw [List.getElem?_append_left inside, here]

theorem cutOff_of_late (ends : EndsIn policy script w n) {k : Nat} (reached : k < n + 1)
    (late : stop policy script ≤ (round policy script k).ended script) :
    w.elapsed = stop policy script ∧ ∀ receipt, w.ending ≠ .confirmed receipt := by
  rcases ends.ending with ⟨inTime, _⟩ | ⟨_, cutOff⟩
  · have noEarlier : (round policy script k).ended script ≤ (round policy script n).ended script :=
      ended_round_mono (Nat.le_of_lt_succ reached)
    exact absurd inTime (Nat.not_lt.mpr (Nat.le_trans late noEarlier))
  · exact cutOff

end EndsIn

/-! ## How and when a wait ends -/

variable (policy script) in
/-- How a wait may end, and when: with a receipt before the deadline and before any cancellation; at
the deadline, when no cancellation has come by then; at a cancellation that comes no later than the
deadline. -/
inductive Exit (hash : Hash) (uid : Uid) : Except Halt Receipt → Nat → Prop
  | confirmed (receipt : Receipt) (elapsed : Nat) (beforeDeadline : elapsed < deadline policy)
      (beforeCancel : ∀ c, script.cancelAt = some c → elapsed < c) :
      Exit hash uid (.ok receipt) elapsed
  | timedOut (first : ∀ c, script.cancelAt = some c → deadline policy < c) :
      Exit hash uid (.error (.failed (.confirmationTimeout uid hash policy.timeoutMs)))
        (deadline policy)
  | cancelled (c : Nat) (requested : script.cancelAt = some c) (inTime : c ≤ deadline policy) :
      Exit hash uid (.error (.failed (.cancelled uid hash))) c

variable (policy script) in
/-- The wait ends at the stop without a receipt, and it would have been the same with any other
answer. -/
structure Unheard {α : Type} (changed : α → WaitScript) : Prop where
  elapsed : (wait policy script).elapsed = stop policy script
  without : ∀ receipt, (wait policy script).ending ≠ .confirmed receipt
  ignored : ∀ answer, wait policy (changed answer) = wait policy script

theorem exit_atStop (hash : Hash) (uid : Uid) {w : Wait}
    (ending : w.ending = (atStop policy script).ending)
    (elapsed : w.elapsed = (atStop policy script).elapsed) :
    Exit policy script hash uid (w.result policy hash uid) w.elapsed := by
  unfold Wait.result
  rw [ending, elapsed]
  unfold atStop
  cases requested : script.cancelAt with
  | none => exact .timedOut (by simp [requested])
  | some c =>
      by_cases inTime : c ≤ deadline policy
      · simp only [if_pos inTime]
        exact .cancelled c requested inTime
      · simp only [if_neg inTime]
        refine .timedOut fun c' requested' => ?_
        cases requested.symm.trans requested'
        exact Nat.lt_of_not_le inTime

theorem Outcome.exit {w : Wait} (outcome : Outcome policy script w) (hash : Hash) (uid : Uid) :
    Exit policy script hash uid (w.result policy hash uid) w.elapsed := by
  cases outcome with
  | found before inTime found =>
      obtain ⟨beforeDeadline, beforeCancel⟩ := lt_stop_iff.mp inTime
      exact .confirmed _ _ beforeDeadline beforeCancel
  | cutOff before cutOff => exact exit_atStop hash uid rfl rfl

theorem stop_le_deadline : stop policy script ≤ deadline policy := by
  unfold stop
  split
  · exact Nat.le_refl _
  · exact Nat.min_le_right _ _

theorem wait_of_cancelled (cancelled : script.cancelAt = some 0) :
    wait policy script = ⟨.cancelled, 0, [], []⟩ := by
  have never : stop policy script = 0 := by simp [stop, cancelled]
  rw [wait, if_pos never, atStop, cancelled]
  rfl

theorem unheard_receipt (scheduled : policy.pollMs ≠ 0) {n t : Nat}
    (polled : (wait policy script).receiptPolls[n]? = some t)
    (late : stop policy script ≤ t + script.receiptLatency n) :
    Unheard policy script (script.withReceipt n) := by
  have outcome : Outcome policy script (wait policy script) := outcome_wait scheduled
  obtain ⟨last, ends⟩ := outcome.endsIn
  obtain ⟨reached, rfl⟩ := taken_of_getElem? (EndsIn.getElem?_of_begins ends.receiptPolls polled)
  have late : stop policy script ≤ (round policy script n).answered script := by
    rwa [Round.answered, receipts_round]
  have noEarlier := Nat.le_trans late Round.answered_le_ended
  obtain ⟨elapsed, without⟩ := ends.cutOff_of_late reached noEarlier
  exact ⟨elapsed, without, fun answer => (agreeInTime_withReceipt late answer).wait_eq scheduled⟩

theorem unheard_head (scheduled : policy.pollMs ≠ 0) {m t : Nat}
    (polled : (wait policy script).headPolls[m]? = some t)
    (late : stop policy script ≤ t + script.headLatency m) :
    Unheard policy script (script.withHead m) := by
  have outcome : Outcome policy script (wait policy script) := outcome_wait scheduled
  obtain ⟨last, ends⟩ := outcome.endsIn
  obtain ⟨n, reached, rfl, mined, rfl⟩ :=
    answered_of_getElem? (EndsIn.getElem?_of_begins ends.headPolls polled)
  have late : stop policy script ≤ (round policy script n).ended script := by
    rwa [Round.ended, if_pos mined]
  obtain ⟨elapsed, without⟩ := ends.cutOff_of_late reached late
  exact ⟨elapsed, without, fun answer => (agreeInTime_withHead mined late answer).wait_eq scheduled⟩

/-- A wait ends by its timeout, in one of three ways, each at its own time. Its polls begin before
the deadline, before any cancellation, and no later than it ends; cancelled at its start, it polls
nothing. When the stop falls into a poll, the wait ends there and then, and what the poll would have
answered makes no difference. -/
theorem exit_of_wait (scheduled : 0 < policy.pollMs) (script : WaitScript) (hash : Hash)
    (uid : Uid) :
    let w := wait policy script
    Exit policy script hash uid (w.result policy hash uid) w.elapsed ∧
    w.elapsed ≤ policy.timeoutMs ∧
    (∀ t, t ∈ w.receiptPolls ∨ t ∈ w.headPolls →
      t < deadline policy ∧ (∀ c, script.cancelAt = some c → t < c) ∧ t ≤ w.elapsed) ∧
    (script.cancelAt = some 0 → w = ⟨.cancelled, 0, [], []⟩) ∧
    (∀ n t, w.receiptPolls[n]? = some t → stop policy script ≤ t + script.receiptLatency n →
      Unheard policy script (script.withReceipt n)) ∧
    ∀ m t, w.headPolls[m]? = some t → stop policy script ≤ t + script.headLatency m →
      Unheard policy script (script.withHead m) := by
  intro w
  have scheduled := Nat.ne_of_gt scheduled
  have outcome : Outcome policy script w := outcome_wait scheduled
  obtain ⟨n, ends⟩ := outcome.endsIn
  refine ⟨outcome.exit hash uid, ?_, ?_, wait_of_cancelled, ?_, ?_⟩
  · exact Nat.le_trans ends.elapsed_le_stop
      (Nat.le_trans stop_le_deadline (Nat.min_le_left _ _))
  · intro t polled
    obtain ⟨beforeDeadline, beforeCancel⟩ := lt_stop_iff.mp (ends.inTime t polled)
    exact ⟨beforeDeadline, beforeCancel, ends.le_elapsed polled⟩
  · exact fun n t polled late => unheard_receipt scheduled polled late
  · exact fun m t polled late => unheard_head scheduled polled late

end Confirmation

namespace Sample

def interrupted : WaitScript where
  receipt _ := .ok (some (receipt 10))
  head _ := .ok 11
  receiptLatency _ := 250
  headLatency _ := 100
  cancelAt := some 500

def patient : ConfirmationPolicy :=
  ⟨18446744073709551615, 0, 10000000000000⟩

def minedLate : WaitScript where
  receipt
    | 0 => .ok none
    | _ => .ok (some (receipt 100))
  head _ := .ok 100

end Sample

namespace Confirmation

theorem exit_of_wait_interrupted :
    let w := wait Sample.policy Sample.interrupted
    w.receiptPolls = [0, 350] ∧ w.headPolls = [250] ∧ w.elapsed = 500 ∧
      Exit Sample.policy Sample.interrupted ⟨1⟩ "run" (w.result Sample.policy ⟨1⟩ "run") 500 ∧
      Unheard Sample.policy Sample.interrupted (Sample.interrupted.withReceipt 1) := by
  intro w
  have whole : w = ⟨.cancelled, 500, [0, 350], [250]⟩ := by decide +kernel
  have scheduled : 0 < Sample.policy.pollMs := by decide
  obtain ⟨exit, _, _, _, unheard, _⟩ :=
    exit_of_wait scheduled Sample.interrupted ⟨1⟩ "run"
  have polled : w.receiptPolls[1]? = some 350 := by rw [whole]; rfl
  refine ⟨by rw [whole], by rw [whole], by rw [whole], ?_, unheard 1 350 polled (by decide)⟩
  have elapsed : w.elapsed = 500 := by rw [whole]
  rwa [← elapsed]

/-- A timeout of more than thirty years runs out after thirty years. -/
theorem timedOut_before_timeout :
    let w := wait Sample.patient Sample.minedLate
    0 < Sample.patient.pollMs ∧ Sample.minedLate.cancelAt = none ∧
      w.result Sample.patient ⟨1⟩ "run" =
        .error (.failed (.confirmationTimeout "run" ⟨1⟩ 18446744073709551615)) ∧
      w.elapsed = 946080000000 ∧ w.elapsed ≠ Sample.patient.timeoutMs := by
  intro w
  have whole : w = ⟨.timedOut, 946080000000, [0], []⟩ := by decide +kernel
  rw [whole]
  exact ⟨by decide, rfl, rfl, rfl, by decide⟩

end Confirmation

end SwapDesk
