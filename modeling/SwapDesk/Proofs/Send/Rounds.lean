import Mathlib.Data.Nat.Find
import SwapDesk.Send.Confirmation

/-!
The rounds of a wait. A round begins with a tick; its receipt is polled, and a receipt that names
its block is followed by a reading of the block number. Which rounds there are follows from the
script alone. A wait goes through them one after the other until a round finds the receipt deep
enough or is not over before the stop.
-/

namespace SwapDesk.Confirmation

/-- Where a round begins: the polls before it, when its tick is due, and when the last answer
before it came. -/
structure Round where
  receipts : Nat
  heads : Nat
  due : Nat
  ready : Nat

namespace Round

variable (policy : ConfirmationPolicy) (script : WaitScript) (r : Round)

def taken : Nat :=
  max r.due r.ready

def answered : Nat :=
  r.taken + script.receiptLatency r.receipts

def mined? : Option (Receipt × UInt64) :=
  Confirmation.mined? (script.receipt r.receipts)

def headPolls : List Nat :=
  if (r.mined? script).isSome then [r.answered script] else []

def ended : Nat :=
  r.answered script + if (r.mined? script).isSome then script.headLatency r.heads else 0

def next : Round where
  receipts := r.receipts + 1
  heads := r.heads + (r.headPolls script).length
  due := nextDue policy.pollMs r.due r.taken
  ready := r.ended script

def found? : Option Receipt :=
  match r.mined? script with
  | none => none
  | some (receipt, block) =>
      if deepEnough policy.blocks block (script.head r.heads) then some receipt else none

/-- The round gets the receipt, and then a block number that is deep enough for its block. -/
def Finds (receipt : Receipt) : Prop :=
  ∃ block current, script.receipt r.receipts = .ok (some receipt) ∧ receipt.block = some block ∧
    script.head r.heads = .ok current ∧
    min (block.toNat + policy.blocks.toNat) (2 ^ 64 - 1) ≤ current.toNat

variable {policy script r}

theorem mined?_eq_some_iff {receipt : Receipt} {block : UInt64} :
    r.mined? script = some (receipt, block) ↔
      script.receipt r.receipts = .ok (some receipt) ∧ receipt.block = some block := by
  unfold mined? Confirmation.mined?
  constructor
  · intro mined
    split at mined
    · rename_i answer answered
      obtain ⟨block', named, same⟩ := Option.map_eq_some_iff.mp mined
      cases same
      exact ⟨answered, named⟩
    · exact nomatch mined
  · rintro ⟨answered, named⟩
    rw [answered]
    simp only [named, Option.map_some]

theorem deepEnough_eq_true_iff {blocks block : UInt64} {head : Except Failure UInt64} :
    deepEnough blocks block head = true ↔
      ∃ current, head = .ok current ∧
        min (block.toNat + blocks.toNat) (2 ^ 64 - 1) ≤ current.toNat := by
  cases head with
  | error e => simp [deepEnough]
  | ok current =>
      simp only [deepEnough, decide_eq_true_eq, UInt64.le_iff_toNat_le, toNat_saturatingAdd]
      constructor
      · intro deep
        exact ⟨current, rfl, deep⟩
      · rintro ⟨_, same, deep⟩
        cases same
        exact deep

theorem found?_eq_some_iff {receipt : Receipt} :
    r.found? policy script = some receipt ↔ r.Finds policy script receipt := by
  unfold found? Finds
  constructor
  · intro found
    split at found
    · cases found
    · rename_i receipt' block mined
      split at found
      · rename_i deep
        cases found
        obtain ⟨answered, named⟩ := mined?_eq_some_iff.mp mined
        obtain ⟨current, read, reached⟩ := deepEnough_eq_true_iff.mp deep
        exact ⟨block, current, answered, named, read, reached⟩
      · cases found
  · rintro ⟨block, current, answered, named, read, reached⟩
    have deep := deepEnough_eq_true_iff.mpr ⟨current, read, reached⟩
    simp only [mined?_eq_some_iff.mpr ⟨answered, named⟩, deep, if_true]

theorem headPolls_of_found {receipt : Receipt} (found : r.found? policy script = some receipt) :
    r.headPolls script = [r.answered script] := by
  obtain ⟨block, _, answered, named, _⟩ := found?_eq_some_iff.mp found
  rw [headPolls, mined?_eq_some_iff.mpr ⟨answered, named⟩]
  rfl

theorem mem_headPolls {t : Nat} (member : t ∈ r.headPolls script) : t = r.answered script := by
  unfold headPolls at member
  split at member
  · exact List.mem_singleton.mp member
  · exact nomatch member

theorem due_le_ended : r.due ≤ r.ended script := by
  unfold ended answered taken
  omega

theorem taken_le_answered : r.taken ≤ r.answered script := by
  unfold answered
  omega

theorem answered_le_ended : r.answered script ≤ r.ended script := by
  unfold ended
  omega

theorem ended_le_next : r.ended script ≤ (r.next policy script).ended script := by
  have begins : r.ended script ≤ (r.next policy script).taken := Nat.le_max_right _ _
  exact Nat.le_trans begins (Nat.le_trans taken_le_answered answered_le_ended)

end Round

def following (w : Wait) (receiptPolls headPolls : List Nat) : Wait :=
  { w with
    receiptPolls := receiptPolls ++ w.receiptPolls
    headPolls := headPolls ++ w.headPolls }

theorem following_following (w : Wait) (receipts heads receipts' heads' : List Nat) :
    following (following w receipts heads) receipts' heads' =
      following w (receipts' ++ receipts) (heads' ++ heads) := by
  simp [following]

variable (policy : ConfirmationPolicy) (script : WaitScript)

def round : Nat → Round
  | 0 => ⟨0, 0, 0, 0⟩
  | n + 1 => (round n).next policy script

def pollFrom (r : Round) : Wait :=
  poll policy script r.receipts r.heads r.due r.ready

/-- The round is over before the stop and has found nothing. -/
structure Passes (r : Round) : Prop where
  inTime : r.ended script < stop policy script
  nothing : r.found? policy script = none

def begun (times : List Nat) : List Nat :=
  times.filter fun t => t < stop policy script

variable {policy script} {r : Round}

theorem begun_of_lt {times : List Nat} (inTime : ∀ t ∈ times, t < stop policy script) :
    begun policy script times = times :=
  List.filter_eq_self.mpr fun t member => decide_eq_true (inTime t member)

theorem begun_of_le {times : List Nat} (late : ∀ t ∈ times, stop policy script ≤ t) :
    begun policy script times = [] :=
  List.filter_eq_nil_iff.mpr fun t member begins =>
    Nat.not_lt.mpr (late t member) (of_decide_eq_true begins)

theorem begun_append (times times' : List Nat) :
    begun policy script (times ++ times') =
      begun policy script times ++ begun policy script times' :=
  List.filter_append times times'

@[simp] theorem receiptPolls_atStop : (atStop policy script).receiptPolls = [] := by
  unfold atStop
  split
  · rfl
  · split <;> rfl

@[simp] theorem headPolls_atStop : (atStop policy script).headPolls = [] := by
  unfold atStop
  split
  · rfl
  · split <;> rfl

/-! ## One round -/

theorem pollFrom_eq (scheduled : policy.pollMs ≠ 0) :
    pollFrom policy script r =
      if stop policy script ≤ r.taken then atStop policy script
      else if stop policy script ≤ r.answered script then
        following (atStop policy script) [r.taken] []
      else
        let rest :=
          if stop policy script ≤ r.ended script then atStop policy script
          else match r.found? policy script with
            | some receipt => ⟨.confirmed receipt, r.ended script, [], []⟩
            | none => pollFrom policy script (r.next policy script)
        following rest [r.taken] (r.headPolls script) := by
  unfold pollFrom
  rw [poll, dif_neg scheduled]
  change (if stop policy script ≤ r.taken then _ else if stop policy script ≤ r.answered script
    then _ else match r.mined? script with | none => _ | some (receipt, block) => _) = _
  split
  · rfl
  split
  · rfl
  rename_i inTime
  unfold Round.found?
  cases mined : r.mined? script with
  | none =>
      have ended : r.ended script = r.answered script := by simp [Round.ended, mined]
      simp only [Round.next, Round.headPolls, mined, ended, if_neg inTime]
      rfl
  | some named =>
      have ended : r.ended script = r.answered script + script.headLatency r.heads := by
        simp [Round.ended, mined]
      simp only [Round.next, Round.headPolls, mined, ended]
      cases deepEnough policy.blocks named.2 (script.head r.heads) <;> rfl

theorem pollFrom_of_passes (scheduled : policy.pollMs ≠ 0) (passes : Passes policy script r) :
    pollFrom policy script r =
      following (pollFrom policy script (r.next policy script)) [r.taken]
        (r.headPolls script) := by
  have answered := Nat.lt_of_le_of_lt Round.answered_le_ended passes.inTime
  have taken := Nat.lt_of_le_of_lt Round.taken_le_answered answered
  rw [pollFrom_eq scheduled, if_neg (Nat.not_le.mpr taken), if_neg (Nat.not_le.mpr answered),
    if_neg (Nat.not_le.mpr passes.inTime), passes.nothing]

theorem pollFrom_of_found {receipt : Receipt} (scheduled : policy.pollMs ≠ 0)
    (inTime : r.ended script < stop policy script)
    (found : r.found? policy script = some receipt) :
    pollFrom policy script r =
      following ⟨.confirmed receipt, r.ended script, [], []⟩ [r.taken] (r.headPolls script) := by
  have answered := Nat.lt_of_le_of_lt Round.answered_le_ended inTime
  have taken := Nat.lt_of_le_of_lt Round.taken_le_answered answered
  rw [pollFrom_eq scheduled, if_neg (Nat.not_le.mpr taken), if_neg (Nat.not_le.mpr answered),
    if_neg (Nat.not_le.mpr inTime), found]

theorem pollFrom_of_cutOff (scheduled : policy.pollMs ≠ 0)
    (cutOff : stop policy script ≤ r.ended script) :
    pollFrom policy script r =
      following (atStop policy script) (begun policy script [r.taken])
        (begun policy script (r.headPolls script)) := by
  have unread (late : stop policy script ≤ r.answered script) :
      begun policy script (r.headPolls script) = [] :=
    begun_of_le fun t member => (Round.mem_headPolls member).symm ▸ late
  rw [pollFrom_eq scheduled]
  rcases Nat.lt_or_ge r.taken (stop policy script) with taken | late
  · rw [if_neg (Nat.not_le.mpr taken), begun_of_lt (by simpa using taken)]
    rcases Nat.lt_or_ge (r.answered script) (stop policy script) with answered | unanswered
    · have read : begun policy script (r.headPolls script) = r.headPolls script :=
        begun_of_lt fun t member => (Round.mem_headPolls member).symm ▸ answered
      rw [if_neg (Nat.not_le.mpr answered), if_pos cutOff, read]
    · rw [if_pos unanswered, unread unanswered]
  · rw [if_pos late, begun_of_le (by simpa using late),
      unread (Nat.le_trans late Round.taken_le_answered)]
    rfl

/-! ## The whole wait -/

theorem wait_eq_pollFrom (scheduled : policy.pollMs ≠ 0) :
    wait policy script = pollFrom policy script (round policy script 0) := by
  unfold wait
  split
  · rename_i never
    rw [pollFrom_eq scheduled, if_pos (by omega)]
  · rfl

variable (policy script) in
def receiptPollsBefore (n : Nat) : List Nat :=
  (List.range n).map fun k => (round policy script k).taken

variable (policy script) in
def headPollsBefore (n : Nat) : List Nat :=
  (List.range n).flatMap fun k => (round policy script k).headPolls script

theorem receiptPollsBefore_succ (n : Nat) :
    receiptPollsBefore policy script (n + 1) =
      receiptPollsBefore policy script n ++ [(round policy script n).taken] := by
  simp [receiptPollsBefore, List.range_succ]

theorem headPollsBefore_succ (n : Nat) :
    headPollsBefore policy script (n + 1) =
      headPollsBefore policy script n ++ (round policy script n).headPolls script := by
  simp [headPollsBefore, List.range_succ]

theorem wait_of_passes (scheduled : policy.pollMs ≠ 0) {n : Nat}
    (passes : ∀ k < n, Passes policy script (round policy script k)) :
    wait policy script =
      following (pollFrom policy script (round policy script n))
        (receiptPollsBefore policy script n) (headPollsBefore policy script n) := by
  induction n with
  | zero => exact wait_eq_pollFrom scheduled
  | succ n ih =>
      rw [ih fun k earlier => passes k (by omega),
        pollFrom_of_passes scheduled (passes n (by omega)), following_following,
        receiptPollsBefore_succ, headPollsBefore_succ]
      rfl

theorem le_due_round (scheduled : policy.pollMs ≠ 0) (n : Nat) :
    n ≤ (round policy script n).due := by
  induction n with
  | zero => exact Nat.zero_le _
  | succ n ih =>
      have later := due_lt_nextDue (Nat.pos_of_ne_zero scheduled) (round policy script n).due
        (round policy script n).taken
      exact Nat.succ_le_of_lt (Nat.lt_of_le_of_lt ih later)

theorem exists_last_round (scheduled : policy.pollMs ≠ 0) :
    ∃ n, (∀ k < n, Passes policy script (round policy script k)) ∧
      ¬ Passes policy script (round policy script n) := by
  classical
  have ends : ∃ n, ¬ Passes policy script (round policy script n) := by
    refine ⟨stop policy script, fun passes => ?_⟩
    have late : stop policy script ≤ (round policy script (stop policy script)).due :=
      le_due_round scheduled _
    exact Nat.not_lt.mpr (Nat.le_trans late Round.due_le_ended) passes.inTime
  refine ⟨Nat.find ends, ?_, Nat.find_spec ends⟩
  intro k earlier
  exact Classical.not_not.mp (Nat.find_min ends earlier)

variable (policy script) in
/-- How a wait with scheduled polls ends: with the first round that finds the receipt deep enough,
or in the first round that is not over before the stop. -/
inductive Outcome : Wait → Prop
  | found {n : Nat} {receipt : Receipt}
      (before : ∀ k < n, Passes policy script (round policy script k))
      (inTime : (round policy script n).ended script < stop policy script)
      (found : (round policy script n).found? policy script = some receipt) :
      Outcome
        { ending := .confirmed receipt
          elapsed := (round policy script n).ended script
          receiptPolls := receiptPollsBefore policy script (n + 1)
          headPolls := headPollsBefore policy script (n + 1) }
  | cutOff {n : Nat} (before : ∀ k < n, Passes policy script (round policy script k))
      (cutOff : stop policy script ≤ (round policy script n).ended script) :
      Outcome
        { atStop policy script with
          receiptPolls := begun policy script (receiptPollsBefore policy script (n + 1))
          headPolls := begun policy script (headPollsBefore policy script (n + 1)) }

theorem begun_receiptPollsBefore {n : Nat}
    (before : ∀ k < n, Passes policy script (round policy script k)) :
    begun policy script (receiptPollsBefore policy script n) =
      receiptPollsBefore policy script n := by
  apply begun_of_lt
  intro t member
  obtain ⟨k, earlier, rfl⟩ := List.mem_map.mp member
  have passes := before k (List.mem_range.mp earlier)
  exact Nat.lt_of_le_of_lt Round.taken_le_answered
    (Nat.lt_of_le_of_lt Round.answered_le_ended passes.inTime)

theorem begun_headPollsBefore {n : Nat}
    (before : ∀ k < n, Passes policy script (round policy script k)) :
    begun policy script (headPollsBefore policy script n) = headPollsBefore policy script n := by
  apply begun_of_lt
  intro t member
  obtain ⟨k, earlier, polled⟩ := List.mem_flatMap.mp member
  have passes := before k (List.mem_range.mp earlier)
  rw [Round.mem_headPolls polled]
  exact Nat.lt_of_le_of_lt Round.answered_le_ended passes.inTime

theorem outcome_wait (scheduled : policy.pollMs ≠ 0) :
    Outcome policy script (wait policy script) := by
  obtain ⟨n, before, last⟩ : ∃ n, (∀ k < n, Passes policy script (round policy script k)) ∧
      ¬ Passes policy script (round policy script n) :=
    exists_last_round scheduled
  rw [wait_of_passes scheduled before]
  rcases Nat.lt_or_ge ((round policy script n).ended script) (stop policy script)
    with inTime | cutOff
  · cases found : (round policy script n).found? policy script with
    | none => exact absurd ⟨inTime, found⟩ last
    | some receipt =>
        rw [pollFrom_of_found scheduled inTime found, following_following,
          ← receiptPollsBefore_succ, ← headPollsBefore_succ]
        have ends := Outcome.found before inTime found
        simpa only [following, List.append_nil] using ends
  · have ends := Outcome.cutOff before cutOff
    rw [receiptPollsBefore_succ, headPollsBefore_succ, begun_append, begun_append,
      begun_receiptPollsBefore before, begun_headPollsBefore before] at ends
    rw [pollFrom_of_cutOff scheduled cutOff, following_following]
    simpa only [following, receiptPolls_atStop, headPolls_atStop, List.append_nil] using ends

end SwapDesk.Confirmation
