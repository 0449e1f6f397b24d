import Mathlib.Data.List.Induction
import SwapDesk.Proofs.Send.Agreement
import SwapDesk.Proofs.Send.Recording

/-!
The nonces of sends that are made one after another. A send takes the chain's count for its account
and nothing else, so the transactions that the chain takes on follow one another without a gap,
whatever becomes of the sends.
-/

namespace SwapDesk

/-- A send, with the chain as it is by then. The chain may take a transaction on and yet answer with
an error; one that it answers with a hash has been taken on. -/
structure Turn where
  executor : Executor
  chain : Chain
  timing : WaitTiming
  request : SendRequest
  accepts : Transaction → Bool
  accepts_of_answered : ∀ {t hash}, chain.broadcast t = .ok hash → accepts t = true

structure Series where
  store : AuditStore
  accepted : List Transaction := []

namespace Turn

def run (turn : Turn) (store : AuditStore) : SendRun SendOutcome :=
  turn.executor.send turn.chain turn.timing turn.request store

def accepted? (turn : Turn) : SendEffect → Option Transaction
  | .ask (.broadcast t) => if turn.accepts t then some t else none
  | _ => none

def accepted (turn : Turn) (store : AuditStore) : List Transaction :=
  (turn.run store).effects.filterMap turn.accepted?

def extend (turn : Turn) (series : Series) : Series where
  store := (turn.run series.store).store
  accepted := series.accepted ++ turn.accepted series.store

end Turn

namespace Series

def after (series : Series) (turns : List Turn) : Series :=
  turns.foldl (fun series turn => turn.extend series) series

/-- At every turn the chain, if it tells its count for the account at all, tells what it had at the
start and what it has taken on since. -/
def Counts (account : Address) (start : Nat) : Series → List Turn → Prop
  | _, [] => True
  | series, turn :: turns =>
      (∀ nonce, turn.chain.pendingNonce account = .ok nonce →
        nonce.toNat = start + series.accepted.length) ∧
      Counts account start (turn.extend series) turns

end Series

namespace Turn

open Executor

variable {turn : Turn} {store : AuditStore}

theorem course (turn : Turn) (store : AuditStore) :
    Course turn.executor turn.chain turn.timing turn.request store (turn.run store) :=
  course_send ..

theorem mem_accepted_iff {t : Transaction} :
    t ∈ turn.accepted store ↔
      .ask (.broadcast t) ∈ (turn.run store).effects ∧ turn.accepts t = true := by
  rw [accepted, List.mem_filterMap]
  constructor
  · rintro ⟨effect, member, taken⟩
    unfold accepted? at taken
    split at taken
    · rename_i other
      obtain ⟨accepts, same⟩ := Option.ite_none_right_eq_some.mp taken
      cases same
      exact ⟨member, accepts⟩
    · exact nomatch taken
  · rintro ⟨member, accepts⟩
    exact ⟨_, member, if_pos accepts⟩

theorem accepted_of_aftermath {hash : Hash} {row : NewRow} {rest : SendRun SendOutcome}
    (after : Aftermath turn.executor turn.chain turn.timing turn.request hash row store rest) :
    rest.effects.filterMap turn.accepted? = [] := by
  rw [List.filterMap_eq_nil_iff]
  intro effect member
  cases effect with
  | ask call => exact absurd member (after.not_mem_ask call)
  | insert | await | update => rfl

theorem accepted_eq (turn : Turn) (store : AuditStore) :
    turn.accepted store = [] ∨ ∃ t nonce, turn.accepted store = [t] ∧
      turn.chain.pendingNonce turn.request.sender = .ok nonce ∧
      t.nonce = some nonce ∧ t.sender = some turn.request.sender := by
  have course := turn.course store
  unfold accepted
  generalize turn.run store = run at course
  cases course with
  | dry | unestimated | unnumbered | unpriced => exact .inl rfl
  | @unsent _ estimated nonce gasPrice ready refused =>
      by_cases accepts : turn.accepts (outgoing turn.executor turn.request estimated nonce gasPrice)
      · refine .inr ⟨outgoing turn.executor turn.request estimated nonce gasPrice, nonce, ?_,
          ready.pending, rfl, rfl⟩
        simp [List.filterMap_cons, accepted?, accepts]
      · exact .inl (by simp [accepted?, accepts])
  | @sent _ estimated nonce gasPrice rest ready answered after =>
      have silent := accepted_of_aftermath after
      have accepts := turn.accepts_of_answered answered
      refine .inr ⟨outgoing turn.executor turn.request estimated nonce gasPrice, nonce, ?_,
        ready.pending, rfl, rfl⟩
      simp [List.filterMap_cons, accepted?, accepts, silent]

structure Wrote (turn : Turn) (store : AuditStore) (row : AuditRow) : Prop where
  uid : row.uid = turn.request.uid
  broadcast : ∃ t ∈ turn.accepted store, turn.chain.broadcast t = .ok row.hash ∧
    t.nonce = some row.nonce

theorem exists_added (turn : Turn) (store : AuditStore) :
    ∃ added, (turn.run store).store.rows = store.rows ++ added ∧
      ∀ row ∈ added, turn.Wrote store row := by
  obtain ⟨added, appended, own⟩ := (turn.course store).exists_added
  refine ⟨added, appended, fun row member => ?_⟩
  obtain ⟨uid, t, asked, answered, nonce, _⟩ := own row member
  exact ⟨uid, t, mem_accepted_iff.mpr ⟨asked, turn.accepts_of_answered answered⟩, answered, nonce⟩

end Turn

namespace Series

/-- The transactions carry the numbers from a start on, each once and in order. -/
structure Numbered (account : Address) (start : Nat) (accepted : List Transaction) : Prop where
  nonces : accepted.map (fun t => t.nonce.map UInt64.toNat) =
    (List.range' start accepted.length).map some
  sender : ∀ t ∈ accepted, t.sender = some account

variable {account : Address} {start : Nat} {series : Series} {turn : Turn} {turns : List Turn}

theorem Numbered.extend (numbered : Numbered account start series.accepted)
    (own : turn.request.sender = account)
    (counts : ∀ nonce, turn.chain.pendingNonce account = .ok nonce →
      nonce.toNat = start + series.accepted.length) :
    Numbered account start (turn.extend series).accepted := by
  rw [Turn.extend]
  rcases turn.accepted_eq series.store with none | ⟨t, nonce, one, told, carried, sent⟩
  · rw [none, List.append_nil]
    exact numbered
  · rw [own] at told sent
    rw [one]
    constructor
    · rw [List.map_append, numbered.nonces, List.length_append, List.length_singleton,
        List.range'_1_concat, List.map_append, ← counts nonce told]
      simp [carried]
    · rw [List.forall_mem_append, List.forall_mem_singleton]
      exact ⟨numbered.sender, sent⟩

theorem Numbered.after (numbered : Numbered account start series.accepted)
    (own : ∀ turn ∈ turns, turn.request.sender = account)
    (counts : Counts account start series turns) :
    Numbered account start (series.after turns).accepted := by
  induction turns generalizing series with
  | nil => exact numbered
  | cons turn turns ih =>
      obtain ⟨here, later⟩ := counts
      obtain ⟨ownHere, ownLater⟩ := List.forall_mem_cons.mp own
      exact ih (numbered.extend ownHere here) ownLater later

theorem after_concat (series : Series) (turns : List Turn) (turn : Turn) :
    series.after (turns ++ [turn]) = turn.extend (series.after turns) :=
  List.foldl_append

theorem mem_or_wrote (series : Series) (turns : List Turn) {row : AuditRow}
    (member : row ∈ (series.after turns).store.rows) :
    row ∈ series.store.rows ∨ ∃ before turn later, turns = before ++ turn :: later ∧
      turn.Wrote (series.after before).store row := by
  induction turns using List.reverseRecOn with
  | nil => exact .inl member
  | append_singleton turns turn ih =>
      rw [after_concat] at member
      obtain ⟨added, appended, wrote⟩ := turn.exists_added (series.after turns).store
      change row ∈ (turn.run (series.after turns).store).store.rows at member
      rw [appended] at member
      rcases List.mem_append.mp member with earlier | new
      · refine (ih earlier).imp_right ?_
        rintro ⟨before, other, later, rfl, wroteEarlier⟩
        exact ⟨before, other, later ++ [turn], by simp, wroteEarlier⟩
      · exact .inr ⟨turns, turn, [], rfl, wrote row new⟩

/-- Sends that are made one after another for one account leave no gap and use no nonce twice: the
transactions that the chain takes on carry the numbers that follow its count at the start. Every row
that is written carries the nonce of its own broadcast. -/
theorem nonces_of_series (store : AuditStore) (turns : List Turn) (account : Address) (start : Nat)
    (own : ∀ turn ∈ turns, turn.request.sender = account)
    (counts : Counts account start ⟨store, []⟩ turns) :
    Numbered account start (after ⟨store, []⟩ turns).accepted ∧
    ∀ row ∈ (after ⟨store, []⟩ turns).store.rows, row ∈ store.rows ∨
      ∃ before turn later, turns = before ++ turn :: later ∧
        turn.Wrote (after ⟨store, []⟩ before).store row := by
  have nothing : Numbered account start [] := ⟨rfl, nofun⟩
  exact ⟨nothing.after own counts, fun row member => mem_or_wrote _ turns member⟩

end Series

namespace Sample

def turn (nonce : UInt64) (production : Bool) : Turn where
  executor := executor
  chain := node nonce
  timing := {}
  request := { order with production }
  accepts _ := true
  accepts_of_answered _ := rfl

def refusedTurn (nonce : UInt64) : Turn where
  executor := executor
  chain := { node nonce with broadcast := fun _ => .error (.rpc "eth_sendRawTransaction" "busy") }
  timing := {}
  request := order
  accepts _ := false
  accepts_of_answered answered := nomatch answered

def turns : List Turn :=
  [turn 4 false, turn 4 true, refusedTurn 5, turn 5 true]

theorem counts_turns : Series.Counts (.ofNat 5) 4 ⟨{}, []⟩ turns := by
  refine ⟨?_, ?_, ?_, ?_, trivial⟩
  all_goals
    intro nonce told
    cases told
    rfl

end Sample

theorem Series.nonces_of_series_refused :
    Numbered (.ofNat 5) 4 (after ⟨{}, []⟩ Sample.turns).accepted ∧
      (after ⟨{}, []⟩ Sample.turns).accepted.length = 2 := by
  have own : ∀ turn ∈ Sample.turns, turn.request.sender = .ofNat 5 := by
    simp [Sample.turns, Sample.turn, Sample.refusedTurn, Sample.order]
  exact ⟨(nonces_of_series {} Sample.turns (.ofNat 5) 4 own Sample.counts_turns).1, rfl⟩

end SwapDesk
