import SwapDesk.Proofs.Send.Teardown

namespace SwapDesk.Confirmation

inductive Fruitless : Except Failure (Option Receipt) → Prop
  | failed (failure : Failure) : Fruitless (.error failure)
  | missing : Fruitless (.ok none)
  | unplaced (receipt : Receipt) (unnamed : receipt.block = none) : Fruitless (.ok (some receipt))

/-- An answer to a reading of the block number that does not reach the depth required for a receipt
of the given block. -/
inductive Shallow (blocks block : UInt64) : Except Failure UInt64 → Prop
  | failed (failure : Failure) : Shallow blocks block (.error failure)
  | below (current : UInt64)
      (short : current.toNat < min (block.toNat + blocks.toNat) (2 ^ 64 - 1)) :
      Shallow blocks block (.ok current)

def ReadFor (script : WaitScript) (m : Nat) (block : UInt64) : Prop :=
  ∃ n receipt, script.receipt n = .ok (some receipt) ∧ receipt.block = some block ∧
    (List.range n).countP (fun k => (mined? (script.receipt k)).isSome) = m

/-- The scripts keep the same times, and their answers differ only where in both of them they are
fruitless or too shallow. -/
structure Alike (blocks : UInt64) (script script' : WaitScript) : Prop where
  receiptLatency : script'.receiptLatency = script.receiptLatency
  headLatency : script'.headLatency = script.headLatency
  cancelAt : script'.cancelAt = script.cancelAt
  receipt : ∀ n, script'.receipt n = script.receipt n ∨
    Fruitless (script.receipt n) ∧ Fruitless (script'.receipt n)
  head : ∀ m, script'.head m = script.head m ∨
    ∀ block, ReadFor script m block →
      Shallow blocks block (script.head m) ∧ Shallow blocks block (script'.head m)

variable {policy : ConfirmationPolicy} {script script' : WaitScript}

theorem Fruitless.mined?_eq_none {answer : Except Failure (Option Receipt)}
    (fruitless : Fruitless answer) : mined? answer = none := by
  cases fruitless with
  | failed failure => rfl
  | missing => rfl
  | unplaced receipt unnamed => simp [mined?, unnamed]

theorem Shallow.not_deepEnough {blocks block : UInt64} {answer : Except Failure UInt64}
    (shallow : Shallow blocks block answer) : deepEnough blocks block answer = false := by
  rw [← Bool.not_eq_true, Round.deepEnough_eq_true_iff]
  rintro ⟨current, rfl, reached⟩
  cases shallow with
  | below _ short => omega

theorem heads_round_eq_countP (n : Nat) :
    (round policy script n).heads =
      (List.range n).countP fun k => (mined? (script.receipt k)).isSome := by
  induction n with
  | zero => rfl
  | succ n ih =>
      have same : (round policy script n).mined? script = mined? (script.receipt n) := by
        rw [Round.mined?, receipts_round]
      rw [List.range_succ, List.countP_append, ← ih, List.countP_singleton]
      change _ + ((round policy script n).headPolls script).length = _
      rw [Round.headPolls, same]
      split <;> rfl

namespace Alike

theorem mined?_eq (alike : Alike policy.blocks script script') (r : Round) :
    r.mined? script' = r.mined? script := by
  rw [Round.mined?, Round.mined?]
  rcases alike.receipt r.receipts with same | ⟨fruitless, fruitless'⟩
  · rw [same]
  · rw [fruitless.mined?_eq_none, fruitless'.mined?_eq_none]

theorem found?_eq (alike : Alike policy.blocks script script') (n : Nat) :
    (round policy script n).found? policy script' =
      (round policy script n).found? policy script := by
  rw [Round.found?, Round.found?, alike.mined?_eq]
  cases mined : (round policy script n).mined? script with
  | none => rfl
  | some named =>
      obtain ⟨receipt, block⟩ := named
      obtain ⟨answered, placed⟩ := Round.mined?_eq_some_iff.mp mined
      have reads : ReadFor script (round policy script n).heads block :=
        ⟨_, receipt, answered, placed, by rw [receipts_round, heads_round_eq_countP]⟩
      rcases alike.head (round policy script n).heads with same | shallow
      · simp only [same]
      · obtain ⟨before, after⟩ := shallow block reads
        simp only [before.not_deepEnough, after.not_deepEnough]

theorem agreeInTime (alike : Alike policy.blocks script script') :
    AgreeInTime policy script script' where
  receiptLatency := alike.receiptLatency
  headLatency := alike.headLatency
  cancelAt := alike.cancelAt
  mined n _ := alike.mined?_eq (round policy script n)
  found n _ := alike.found?_eq n

end Alike

theorem wait_of_unscheduled (instant : policy.pollMs = 0) :
    wait policy script =
      if stop policy script = 0 then atStop policy script else ⟨.crashed, 0, [], []⟩ := by
  rw [wait, poll, dif_pos instant]

theorem AgreeInTime.wait_eq_always (agree : AgreeInTime policy script script') :
    wait policy script' = wait policy script := by
  by_cases instant : policy.pollMs = 0
  · rw [wait_of_unscheduled instant, wait_of_unscheduled instant, agree.stop_eq, agree.atStop_eq]
  · exact agree.wait_eq instant

variable (policy script) in
/-- What may end a wait: a receipt and a block number that its last polls have brought, the
deadline, or a cancellation; and an interval of no length makes it crash. -/
inductive EndedBy (hash : Hash) (uid : Uid) (w : Wait) : Except Halt Receipt → Prop
  | answers (n m : Nat) (receipt : Receipt) (current : UInt64)
      (lastReceipt : w.receiptPolls.length = n + 1)
      (answered : script.receipt n = .ok (some receipt))
      (lastHead : w.headPolls.length = m + 1) (read : script.head m = .ok current) :
      EndedBy hash uid w (.ok receipt)
  | deadline (elapsed : w.elapsed = deadline policy) :
      EndedBy hash uid w (.error (.failed (.confirmationTimeout uid hash policy.timeoutMs)))
  | cancellation (requested : script.cancelAt = some w.elapsed) :
      EndedBy hash uid w (.error (.failed (.cancelled uid hash)))
  | unscheduled (instant : policy.pollMs = 0) : EndedBy hash uid w (.error .crashed)

variable {hash : Hash} {uid : Uid}

theorem endedBy_atStop {w : Wait} (ending : w.ending = (atStop policy script).ending)
    (elapsed : w.elapsed = (atStop policy script).elapsed) :
    EndedBy policy script hash uid w (w.result policy hash uid) := by
  have exit : Exit policy script hash uid (w.result policy hash uid) w.elapsed :=
    exit_atStop hash uid ending elapsed
  generalize returned : w.result policy hash uid = outcome at exit ⊢
  generalize ended : w.elapsed = instant at exit
  cases exit with
  | confirmed receipt =>
      have confirmed := ending.symm.trans (result_eq_ok_iff.mp returned)
      exact absurd confirmed (not_confirmed_atStop receipt)
  | timedOut => exact .deadline ended
  | cancelled c requested => exact .cancellation (ended ▸ requested)

theorem Outcome.endedBy {w : Wait} (outcome : Outcome policy script w) :
    EndedBy policy script hash uid w (w.result policy hash uid) := by
  cases outcome with
  | @found n receipt before inTime found =>
      obtain ⟨block, current, answered, named, read, reached⟩ := Round.found?_eq_some_iff.mp found
      have receipts : (receiptPollsBefore policy script (n + 1)).length =
          (round policy script n).receipts + 1 := by
        simp [receiptPollsBefore, receipts_round]
      have heads : (headPollsBefore policy script (n + 1)).length =
          (round policy script n).heads + 1 := by
        rw [headPollsBefore_succ, List.length_append, ← heads_round,
          Round.headPolls_of_found found]
        rfl
      exact .answers _ _ receipt current receipts answered heads read
  | cutOff => exact endedBy_atStop rfl rfl

theorem endedBy_wait :
    EndedBy policy script hash uid (wait policy script)
      ((wait policy script).result policy hash uid) := by
  by_cases instant : policy.pollMs = 0
  · rw [wait_of_unscheduled instant]
    split
    · exact endedBy_atStop rfl rfl
    · exact .unscheduled instant
  · exact (outcome_wait instant).endedBy

/-- Two scripts that differ in failed polls and in others that bring nothing give the very same
wait: the same end at the same time, and the same polls. And what ends it is never a failure of the
endpoint. -/
theorem wait_blind_to_failures (alike : Alike policy.blocks script script') (hash : Hash)
    (uid : Uid) :
    wait policy script' = wait policy script ∧
      EndedBy policy script' hash uid (wait policy script')
        ((wait policy script').result policy hash uid) :=
  ⟨alike.agreeInTime.wait_eq_always, endedBy_wait⟩

end SwapDesk.Confirmation

namespace SwapDesk.Sample

def flaky : WaitScript :=
  (reorganized.withReceipt 0 (.error (.rpc "eth_getTransactionReceipt" "reset"))).withHead 0
    (.error (.rpc "eth_blockNumber" "reset"))

end SwapDesk.Sample

namespace SwapDesk.Confirmation

theorem alike_flaky : Alike Sample.policy.blocks Sample.reorganized Sample.flaky where
  receiptLatency := rfl
  headLatency := rfl
  cancelAt := rfl
  receipt n := by
    by_cases first : n = 0
    · subst first
      exact .inr ⟨.missing, .failed _⟩
    · exact .inl (WaitScript.receipt_withReceipt_of_ne first _)
  head m := by
    by_cases first : m = 0
    · subst first
      refine .inr ?_
      rintro block ⟨n, receipt, answered, placed, counted⟩
      match n with
      | 0 => exact nomatch answered
      | 1 =>
          cases answered
          cases placed
          exact ⟨.below 12 (by decide), .failed _⟩
      | n + 2 =>
          have named := List.countP_eq_zero.mp counted 1 (List.mem_range.mpr (by omega))
          exact absurd rfl named
    · exact .inl (WaitScript.head_withHead_of_ne first _)

theorem wait_blind_to_failures_flaky :
    Alike Sample.policy.blocks Sample.reorganized Sample.flaky ∧
      wait Sample.policy Sample.flaky =
        ⟨.confirmed (Sample.receipt 12), 209, [0, 100, 200], [107, 207]⟩ := by
  have whole : wait Sample.policy Sample.reorganized =
      ⟨.confirmed (Sample.receipt 12), 209, [0, 100, 200], [107, 207]⟩ := by decide +kernel
  exact ⟨alike_flaky, (wait_blind_to_failures alike_flaky ⟨1⟩ "run").1.trans whole⟩

end SwapDesk.Confirmation
