import SwapDesk.Proofs.Send.Agreement
import SwapDesk.Proofs.Send.Steps

namespace SwapDesk

namespace SendState

/-- The transitions of a send that waits for its confirmation, or does not. -/
inductive Moves (waits : Bool) : SendState → SendState → Prop
  | estimated : Moves waits .built .gasEstimated
  | sent : Moves waits .gasEstimated .sent
  | persisted : Moves waits .sent .persisted
  | submitted (leaves : waits = false) : Moves waits .persisted .done
  | confirming (stays : waits = true) : Moves waits .persisted .confirming
  | confirmed (stays : waits = true) : Moves waits .confirming .done
  | unprepared : Moves waits .built .failed
  | unsent : Moves waits .gasEstimated .failed
  | unrecorded : Moves waits .sent .failed
  | unconfirmed (stays : waits = true) : Moves waits .confirming .failed

inductive Path (waits : Bool) : SendState → List (SendState × SendState) → SendState → Prop
  | stay {state : SendState} : Path waits state [] state
  | move {source target last : SendState} {onward : List (SendState × SendState)}
      (moves : Moves waits source target) (rest : Path waits target onward last) :
      Path waits source ((source, target) :: onward) last

def Reached (states : List (SendState × SendState)) (state : SendState) : Prop :=
  ∃ source, (source, state) ∈ states

variable {waits : Bool} {source last : SendState} {states : List (SendState × SendState)}

@[simp] theorem not_reached_nil (state : SendState) : ¬ Reached [] state := by
  simp [Reached]

@[simp] theorem reached_cons {move : SendState × SendState} {state : SendState} :
    Reached (move :: states) state ↔ state = move.2 ∨ Reached states state := by
  simp [Reached, Prod.ext_iff, exists_or]

theorem Moves.source_ne {target : SendState} (moves : Moves waits source target) :
    source ≠ .done ∧ source ≠ .failed := by
  cases moves <;> simp

theorem Path.eq_nil_of_failed (path : Path waits .failed states last) : states = [] := by
  cases path with
  | stay => rfl
  | move moves rest => exact absurd rfl moves.source_ne.2

theorem Path.source_ne (path : Path waits source states last) :
    ∀ move ∈ states, move.1 ≠ .done ∧ move.1 ≠ .failed := by
  induction path with
  | stay => simp
  | move moves rest ih =>
      intro move member
      cases member with
      | head => exact moves.source_ne
      | tail _ later => exact ih move later

theorem Path.countP_failed_le_one (path : Path waits source states last) :
    states.countP (fun move => move.2 == .failed) ≤ 1 := by
  induction path with
  | stay => simp
  | @move source target last onward moves rest ih =>
      by_cases failed : target = .failed
      · subst failed
        rw [rest.eq_nil_of_failed]
        simp
      · rw [List.countP_cons_of_neg (by simpa using failed)]
        exact ih

/-- What a send reports when it leaves a state for failed. -/
inductive Blames (req : SendRequest) : SendState → Failure → Prop
  | unestimated (source : Failure) :
      Blames req .built (.gasEstimation req.uid req.method req.func source)
  | unprepared (source : Failure) : Blames req .built (.send req.uid req.method req.func source)
  | unsent (source : Failure) : Blames req .gasEstimated (.send req.uid req.method req.func source)
  | unrecorded (hash : Hash) (fault : StoreFault) :
      Blames req .sent (.persistence req.uid hash fault)
  | cancelled (hash : Hash) : Blames req .confirming (.cancelled req.uid hash)
  | timedOut (hash : Hash) (timeoutMs : Nat) :
      Blames req .confirming (.confirmationTimeout req.uid hash timeoutMs)
  | unsettled (hash : Hash) (fault : StoreFault) :
      Blames req .confirming (.persistence req.uid hash fault)
  | reverted (hash : Hash) : Blames req .confirming (.reverted req.uid hash)
  | loggedError (hash : Hash) : Blames req .confirming (.loggedError req.uid hash)

inductive Ends : SendState → Except Halt SendOutcome → Prop
  | done (outcome : SendOutcome) : Ends .done (.ok outcome)
  | failed (e : Failure) : Ends .failed (.error (.failed e))
  | crashed : Ends .confirming (.error .crashed)

namespace Ends

variable {result : Except Halt SendOutcome}

theorem done_iff (ends : Ends last result) :
    last = .done ↔ ∃ outcome, result = .ok outcome := by
  cases ends <;> simp

theorem failed_iff (ends : Ends last result) :
    last = .failed ↔ ∃ e, result = .error (.failed e) := by
  cases ends <;> simp

theorem confirming_iff (ends : Ends last result) :
    last = .confirming ↔ result = .error .crashed := by
  cases ends <;> simp

end Ends

end SendState

namespace Executor

open SendState

variable {x : Executor} {chain : Chain} {timing : WaitTiming} {req : SendRequest}
  {store : AuditStore} {hash : Hash} {row : NewRow} {run : SendRun SendOutcome}

theorem Aftermath.path (after : Aftermath x chain timing req hash row store run) :
    ∃ last, Path req.waitConfirmation .sent run.states last ∧ Ends last run.result := by
  cases after with
  | unrecorded => exact ⟨_, .move .unrecorded .stay, .failed _⟩
  | submitted _ leaves =>
      exact ⟨_, .move .persisted (.move (.submitted leaves) .stay), .done _⟩
  | interrupted _ stays | unsettled _ stays | rejected _ stays =>
      have confirming := Path.move (.confirming stays) (.move (.unconfirmed stays) .stay)
      exact ⟨_, .move .persisted confirming, .failed _⟩
  | crashed _ stays => exact ⟨_, .move .persisted (.move (.confirming stays) .stay), .crashed⟩
  | confirmed _ stays =>
      have confirming := Path.move (.confirming stays) (.move (.confirmed stays) .stay)
      exact ⟨_, .move .persisted confirming, .done _⟩

theorem Aftermath.reached_persisted_iff (after : Aftermath x chain timing req hash row store run) :
    Reached run.states .persisted ↔ ∃ saved left, store.save row = .ok (saved, left) := by
  cases after with
  | unrecorded refused => simp [refused]
  | submitted entered | interrupted entered | crashed entered | unsettled entered
  | rejected entered | confirmed entered => simp [entered]

theorem Aftermath.reached_confirming_iff (after : Aftermath x chain timing req hash row store run) :
    Reached run.states .confirming ↔
      Reached run.states .persisted ∧ req.waitConfirmation = true := by
  cases after with
  | unrecorded => simp
  | submitted _ leaves => simp [leaves]
  | interrupted _ stays | crashed _ stays | unsettled _ stays | rejected _ stays
  | confirmed _ stays => simp [stays]

theorem Aftermath.blames (after : Aftermath x chain timing req hash row store run)
    {source : SendState} (left : (source, .failed) ∈ run.states) :
    ∃ e, run.result = .error (.failed e) ∧ Blames req source e := by
  cases after with
  | unrecorded =>
      obtain rfl : source = .sent := by simpa using left
      exact ⟨_, rfl, .unrecorded _ _⟩
  | submitted | crashed | confirmed => simp at left
  | interrupted _ _ ended =>
      obtain rfl : source = .confirming := by simpa using left
      rcases Confirmation.failure_of_result ended with rfl | rfl
      · exact ⟨_, rfl, .timedOut _ _⟩
      · exact ⟨_, rfl, .cancelled _⟩
  | unsettled =>
      obtain rfl : source = .confirming := by simpa using left
      exact ⟨_, rfl, .unsettled _ _⟩
  | rejected _ _ _ _ judged =>
      obtain rfl : source = .confirming := by simpa using left
      rcases Receipt.classify_eq_error judged with ⟨_, rfl⟩ | ⟨_, rfl⟩
      · exact ⟨_, rfl, .reverted _⟩
      · exact ⟨_, rfl, .loggedError _⟩

theorem Aftermath.instant_of_crashed (after : Aftermath x chain timing req hash row store run)
    (crashed : run.result = .error .crashed) : x.policy.pollMs = 0 := by
  cases after with
  | unrecorded | submitted | interrupted | unsettled | rejected | confirmed => simp at crashed
  | crashed _ _ ended => exact Confirmation.instant_of_result ended

theorem Course.path (course : Course x chain timing req store run)
    (production : req.production = true) :
    ∃ last, Path req.waitConfirmation .built run.states last ∧ Ends last run.result := by
  cases course with
  | dry dry => exact nomatch dry.symm.trans production
  | unestimated | unnumbered | unpriced => exact ⟨_, .move .unprepared .stay, .failed _⟩
  | unsent => exact ⟨_, .move .estimated (.move .unsent .stay), .failed _⟩
  | sent _ _ after =>
      obtain ⟨last, path, ends⟩ := after.path
      exact ⟨last, .move .estimated (.move .sent path), ends⟩

theorem Course.reached_sent_iff (course : Course x chain timing req store run) :
    Reached run.states .sent ↔
      ∃ t hash, .ask (.broadcast t) ∈ run.effects ∧ chain.broadcast t = .ok hash := by
  cases course with
  | dry | unestimated | unnumbered | unpriced => simp
  | unsent _ refused => simp [refused]
  | sent _ accepted => simp [accepted]

theorem Course.reached_persisted_iff (course : Course x chain timing req store run) :
    Reached run.states .persisted ↔
      ∃ row saved left, .insert row ∈ run.effects ∧ store.save row = .ok (saved, left) := by
  cases course with
  | dry | unestimated | unnumbered | unpriced | unsent => simp
  | sent _ _ after => simp [after.reached_persisted_iff, after.mem_insert_iff]

theorem Course.reached_confirming_iff (course : Course x chain timing req store run) :
    Reached run.states .confirming ↔
      Reached run.states .persisted ∧ req.waitConfirmation = true := by
  cases course with
  | dry | unestimated | unnumbered | unpriced | unsent => simp
  | sent _ _ after => simp [after.reached_confirming_iff]

theorem Course.blames (course : Course x chain timing req store run) {source : SendState}
    (left : (source, .failed) ∈ run.states) :
    ∃ e, run.result = .error (.failed e) ∧ Blames req source e := by
  cases course with
  | dry => simp at left
  | unestimated =>
      obtain rfl : source = .built := by simpa using left
      exact ⟨_, rfl, .unestimated _⟩
  | unnumbered | unpriced =>
      obtain rfl : source = .built := by simpa using left
      exact ⟨_, rfl, .unprepared _⟩
  | unsent =>
      obtain rfl : source = .gasEstimated := by simpa using left
      exact ⟨_, rfl, .unsent _⟩
  | sent _ _ after => exact after.blames (by simpa using left)

theorem Course.instant_of_crashed (course : Course x chain timing req store run)
    (crashed : run.result = .error .crashed) : x.policy.pollMs = 0 := by
  cases course with
  | dry | unestimated | unnumbered | unpriced | unsent => simp at crashed
  | sent _ _ after => exact after.instant_of_crashed crashed

/-- The log of a send says how far it got and how it ended. -/
structure Truthful (x : Executor) (chain : Chain) (req : SendRequest) (store : AuditStore)
    (run : SendRun SendOutcome) (last : SendState) : Prop where
  done : last = .done ↔ ∃ outcome, run.result = .ok outcome
  failed : last = .failed ↔ ∃ e, run.result = .error (.failed e)
  /-- Neither an outcome nor a failure: there is nothing to wait by. -/
  crashed : last = .confirming ↔ run.result = .error .crashed
  instant : run.result = .error .crashed → x.policy.pollMs = 0
  sent : Reached run.states .sent ↔
    ∃ t hash, .ask (.broadcast t) ∈ run.effects ∧ chain.broadcast t = .ok hash
  persisted : Reached run.states .persisted ↔
    ∃ row saved left, .insert row ∈ run.effects ∧ store.save row = .ok (saved, left)
  confirming : Reached run.states .confirming ↔
    Reached run.states .persisted ∧ req.waitConfirmation = true
  blames : ∀ source, (source, .failed) ∈ run.states →
    ∃ e, run.result = .error (.failed e) ∧ Blames req source e

/-- A dry run logs nothing. The log of any send is a path from built that fails at most once and
goes nowhere from done or failed; outside a dry run it tells how the send ended, what it had done
by then, and what it reports. -/
theorem states_of_send (x : Executor) (chain : Chain) (timing : WaitTiming) (req : SendRequest)
    (store : AuditStore) :
    let run := x.send chain timing req store
    (req.production = false → run.states = []) ∧
    ∃ last, Path req.waitConfirmation .built run.states last ∧
      run.states.countP (fun move => move.2 == .failed) ≤ 1 ∧
      (∀ move ∈ run.states, move.1 ≠ .done ∧ move.1 ≠ .failed) ∧
      (req.production = true → Truthful x chain req store run last) := by
  intro run
  have course : Course x chain timing req store run := course_send x chain timing req store
  cases production : req.production with
  | false =>
      have silent : run.states = [] := by
        simp only [run, send, production]
        rfl
      rw [silent]
      refine ⟨fun _ => rfl, .built, .stay, Nat.zero_le 1, List.forall_mem_nil _, ?_⟩
      exact fun produced => absurd produced Bool.false_ne_true
  | true =>
      obtain ⟨last, path, ends⟩ := course.path production
      refine ⟨fun dry => absurd dry.symm Bool.false_ne_true, last, path,
        path.countP_failed_le_one, path.source_ne, fun _ => ?_⟩
      exact {
        done := ends.done_iff
        failed := ends.failed_iff
        crashed := ends.confirming_iff
        instant := course.instant_of_crashed
        sent := course.reached_sent_iff
        persisted := course.reached_persisted_iff
        confirming := course.reached_confirming_iff
        blames := fun _ left => course.blames left }

end Executor

end SwapDesk
