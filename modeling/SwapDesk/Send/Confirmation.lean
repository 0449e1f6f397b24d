import SwapDesk.Chain.Basic

/-!
Waiting until a transaction is deep enough in the chain. Times are milliseconds since the wait
began. Receipts are polled at intervals; the wait ends at the deadline or when it is cancelled, and
at one instant a cancellation comes before the deadline and the deadline before an answer.
-/

namespace SwapDesk

structure ConfirmationPolicy where
  timeoutMs : Nat
  /-- How many blocks have to follow the one with the transaction. -/
  blocks : UInt64
  pollMs : Nat
deriving DecidableEq, Inhabited

/-- What a wait gets to see: readings by number, how long each takes, and when it is cancelled. -/
structure WaitScript where
  receipt : Nat → Except Failure (Option Receipt)
  head : Nat → Except Failure UInt64
  receiptLatency : Nat → Nat := fun _ => 0
  headLatency : Nat → Nat := fun _ => 0
  cancelAt : Option Nat := none

inductive WaitEnd where
  | confirmed (receipt : Receipt)
  | timedOut
  | cancelled
  /-- An interval of no length cannot be scheduled. -/
  | crashed
deriving DecidableEq

structure Wait where
  ending : WaitEnd
  elapsed : Nat
  receiptPolls : List Nat
  headPolls : List Nat
deriving DecidableEq

namespace Wait

def afterReceiptPoll (w : Wait) (t : Nat) : Wait :=
  { w with receiptPolls := t :: w.receiptPolls }

def afterHeadPoll (w : Wait) (t : Nat) : Wait :=
  { w with headPolls := t :: w.headPolls }

def result (w : Wait) (policy : ConfirmationPolicy) (hash : Hash) (uid : Uid) :
    Except Halt Receipt :=
  match w.ending with
  | .confirmed receipt => .ok receipt
  | .timedOut => .error (.failed (.confirmationTimeout uid hash policy.timeoutMs))
  | .cancelled => .error (.failed (.cancelled uid hash))
  | .crashed => .error .crashed

end Wait

namespace Confirmation

/-- A tick may be taken this late before later ticks are moved. -/
def tolerance : Nat := 5

/-- When the tick after one that was due at `due` and taken at `taken` is due. -/
def nextDue (period due taken : Nat) : Nat :=
  if due + tolerance < taken then taken + period else due + period

theorem due_lt_nextDue {period : Nat} (h : 0 < period) (due taken : Nat) :
    due < nextDue period due taken := by
  unfold nextDue
  split <;> omega

/-- No deadline is further away than thirty years of 365 days. -/
def furthest : Nat := 30 * 365 * 24 * 60 * 60 * 1000

def deadline (policy : ConfirmationPolicy) : Nat :=
  min policy.timeoutMs furthest

def stop (policy : ConfirmationPolicy) (script : WaitScript) : Nat :=
  match script.cancelAt with
  | none => deadline policy
  | some c => min c (deadline policy)

def atStop (policy : ConfirmationPolicy) (script : WaitScript) : Wait :=
  match script.cancelAt with
  | none => ⟨.timedOut, deadline policy, [], []⟩
  | some c =>
      if c ≤ deadline policy then ⟨.cancelled, c, [], []⟩
      else ⟨.timedOut, deadline policy, [], []⟩

def mined? (answer : Except Failure (Option Receipt)) : Option (Receipt × UInt64) :=
  match answer with
  | .ok (some receipt) => receipt.block.map fun block => (receipt, block)
  | _ => none

def deepEnough (blocks : UInt64) (mined : UInt64) (head : Except Failure UInt64) : Bool :=
  match head with
  | .ok current => decide (saturatingAdd mined blocks ≤ current)
  | .error _ => false

/-- Polls `n` receipts and `m` block numbers on; the next tick is due at `due`, and the answers so
far have come by `now`. -/
def poll (policy : ConfirmationPolicy) (script : WaitScript) (n m due now : Nat) : Wait :=
  let taken := max due now
  if _instant : policy.pollMs = 0 then ⟨.crashed, now, [], []⟩
  else if _over : stop policy script ≤ taken then atStop policy script
  else
    let answered := taken + script.receiptLatency n
    let due' := nextDue policy.pollMs due taken
    if stop policy script ≤ answered then (atStop policy script).afterReceiptPoll taken
    else
      match mined? (script.receipt n) with
      | none => (poll policy script (n + 1) m due' answered).afterReceiptPoll taken
      | some (receipt, block) =>
          let counted := answered + script.headLatency m
          let w :=
            if stop policy script ≤ counted then atStop policy script
            else if deepEnough policy.blocks block (script.head m) then
              ⟨.confirmed receipt, counted, [], []⟩
            else poll policy script (n + 1) (m + 1) due' counted
          (w.afterHeadPoll answered).afterReceiptPoll taken
termination_by stop policy script - due
decreasing_by
  all_goals
    have later := due_lt_nextDue (Nat.pos_of_ne_zero _instant) due (max due now)
    omega

def wait (policy : ConfirmationPolicy) (script : WaitScript) : Wait :=
  if stop policy script = 0 then atStop policy script else poll policy script 0 0 0 0

end Confirmation

/-- Decides whether a receipt of status success still reports a failure. -/
inductive ReceiptCheck where
  | failureEvent
  | always
  | never
  | anyLog
deriving DecidableEq, Inhabited

def ReceiptCheck.name : ReceiptCheck → String
  | .failureEvent => "failure_event"
  | .always => "always"
  | .never => "never"
  | .anyLog => "has_logs"

def ReceiptCheck.ofName? (s : String) : Option ReceiptCheck :=
  [ReceiptCheck.failureEvent, .always, .never, .anyLog].find? fun c => c.name == s

/-- The topic of `Failure(uint256,uint256,uint256)`. -/
def failureTopic : Hash :=
  ⟨0x45b96fe442630264581b197e84bbada861235052c5a1aadfff9ea4e40a969aa0⟩

def ReceiptCheck.flags (check : ReceiptCheck) (receipt : Receipt) : Bool :=
  match check with
  | .failureEvent => receipt.logs.any fun log => log.topics.head? == some failureTopic
  | .always => true
  | .never => false
  | .anyLog => !receipt.logs.isEmpty

namespace Receipt

/-- A reverted transaction fails before its logs are looked at. -/
def classify (receipt : Receipt) (uid : Uid) (flags : Receipt → Bool) : Except Failure Unit :=
  if !receipt.status then .error (.reverted uid receipt.hash)
  else if flags receipt then .error (.loggedError uid receipt.hash)
  else .ok ()

end Receipt

end SwapDesk
