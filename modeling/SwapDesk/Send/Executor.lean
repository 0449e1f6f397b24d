import SwapDesk.Send.AuditStore
import SwapDesk.Send.Confirmation

/-!
Sending one transaction: estimate, price, broadcast, record, and wait for confirmation. A run shows
its result, the states it passed through, its effects in order, and the store it leaves.
-/

namespace SwapDesk

inductive SendState where
  | built
  | gasEstimated
  | sent
  | persisted
  | confirming
  | done
  | failed
deriving DecidableEq

def SendState.name : SendState → String
  | .built => "BUILT"
  | .gasEstimated => "GAS_ESTIMATED"
  | .sent => "SENT"
  | .persisted => "PERSISTED"
  | .confirming => "CONFIRMING"
  | .done => "DONE"
  | .failed => "FAILED"

structure SendRequest where
  transaction : Transaction
  method : String
  func : String
  context : Json
  uid : Uid
  sender : Address
  /-- Without it nothing is sent or recorded. -/
  production : Bool
  waitConfirmation : Bool
  /-- Goes before the executor's own check. -/
  check : Option ReceiptCheck := none
deriving Inhabited

inductive SendOutcome where
  | dryRun
  | submitted (hash : Hash) (recordId : Nat)
  | confirmed (hash : Hash) (recordId : Nat) (receipt : Receipt)
deriving DecidableEq

def SendOutcome.hash? : SendOutcome → Option Hash
  | dryRun => none
  | submitted hash _ => some hash
  | confirmed hash _ _ => some hash

structure Executor where
  chainId : UInt64
  gasBuffer : UInt64
  policy : ConfirmationPolicy
  check : ReceiptCheck := .failureEvent
deriving Inhabited

/-- How long polls take and when the wait is cancelled. -/
structure WaitTiming where
  receiptLatency : Nat → Nat := fun _ => 0
  headLatency : Nat → Nat := fun _ => 0
  cancelAt : Option Nat := none

inductive SendEffect where
  | ask (call : ChainCall)
  | insert (row : NewRow)
  | await (wait : Wait)
  | update (hash : Hash) (update : RowUpdate)

structure SendRun (α : Type) where
  result : Except Halt α
  states : List (SendState × SendState)
  effects : List SendEffect
  store : AuditStore

namespace SendRun

variable {α β : Type}

def map (f : α → β) (run : SendRun α) : SendRun β :=
  { run with result := run.result.map f }

def after (effect : SendEffect) (run : SendRun α) : SendRun α :=
  { run with effects := effect :: run.effects }

def step (source target : SendState) (run : SendRun α) : SendRun α :=
  { run with states := (source, target) :: run.states }

def calls (run : SendRun α) : List ChainCall :=
  run.effects.filterMap fun
    | .ask call => some call
    | _ => none

def wait? (run : SendRun α) : Option Wait :=
  run.effects.findSome? fun
    | .await wait => some wait
    | _ => none

end SendRun

namespace Executor

def halt (store : AuditStore) (state : SendState) (why : Halt) : SendRun SendOutcome :=
  match why with
  | .failed _ => ⟨.error why, [(state, .failed)], [], store⟩
  | .crashed => ⟨.error why, [], [], store⟩

def fail (store : AuditStore) (state : SendState) (failure : Failure) : SendRun SendOutcome :=
  halt store state (.failed failure)

def addressed (req : SendRequest) : Transaction :=
  { req.transaction with sender := some req.sender }

def priced (req : SendRequest) (gas nonce : UInt64) (gasPrice : GasPrice) : Transaction :=
  { addressed req with gas := some gas, nonce := some nonce, gasPrice := some gasPrice }

def waitScript (chain : Chain) (timing : WaitTiming) (hash : Hash) : WaitScript :=
  { receipt := chain.receipt hash
    head := chain.head
    receiptLatency := timing.receiptLatency
    headLatency := timing.headLatency
    cancelAt := timing.cancelAt }

def newRow (x : Executor) (req : SendRequest) (hash : Hash) (nonce gas : UInt64)
    (gasPrice : GasPrice) : NewRow :=
  { uid := req.uid, chain := x.chainId, method := req.method, func := req.func
    context := req.context, hash := hash, sender := req.sender
    target := req.transaction.target?, nonce := nonce, gasLimit := gas, gasPrice := gasPrice }

def rowUpdate (receipt : Receipt) : RowUpdate :=
  { block := receipt.block.getD 0, gasUsed := receipt.gasUsed, gasPrice := receipt.gasPrice
    status := receipt.status }

/-- Records the receipt first and judges it afterwards. -/
def settle (x : Executor) (req : SendRequest) (hash : Hash) (recordId : Nat) (receipt : Receipt)
    (store : AuditStore) : SendRun SendOutcome :=
  let update := rowUpdate receipt
  SendRun.after (.update hash update) <|
    match store.confirm hash update with
    | .error fault => fail store .confirming (.persistence req.uid hash fault)
    | .ok store =>
        match receipt.classify req.uid (req.check.getD x.check).flags with
        | .error e => fail store .confirming e
        | .ok () => ⟨.ok (.confirmed hash recordId receipt), [(.confirming, .done)], [], store⟩

def confirm (x : Executor) (chain : Chain) (timing : WaitTiming) (req : SendRequest) (hash : Hash)
    (recordId : Nat) (store : AuditStore) : SendRun SendOutcome :=
  let wait := Confirmation.wait x.policy (waitScript chain timing hash)
  SendRun.after (.await wait) <|
    match wait.result x.policy hash req.uid with
    | .error why => halt store .confirming why
    | .ok receipt => settle x req hash recordId receipt store

def record (x : Executor) (chain : Chain) (timing : WaitTiming) (req : SendRequest) (hash : Hash)
    (row : NewRow) (store : AuditStore) : SendRun SendOutcome :=
  SendRun.after (.insert row) <|
    match store.save row with
    | .error fault => fail store .sent (.persistence req.uid hash fault)
    | .ok (saved, store) =>
        SendRun.step .sent .persisted <|
          if req.waitConfirmation then
            (confirm x chain timing req hash saved.id store).step .persisted .confirming
          else ⟨.ok (.submitted hash saved.id), [(.persisted, .done)], [], store⟩

def broadcast (x : Executor) (chain : Chain) (timing : WaitTiming) (req : SendRequest)
    (gas nonce : UInt64) (gasPrice : GasPrice) (store : AuditStore) : SendRun SendOutcome :=
  let transaction := priced req gas nonce gasPrice
  SendRun.after (.ask (.broadcast transaction)) <|
    match chain.broadcast transaction with
    | .error e => fail store .gasEstimated (.send req.uid req.method req.func e)
    | .ok hash =>
        (record x chain timing req hash (newRow x req hash nonce gas gasPrice) store).step
          .gasEstimated .sent

def price (x : Executor) (chain : Chain) (timing : WaitTiming) (req : SendRequest)
    (estimated : UInt64) (store : AuditStore) : SendRun SendOutcome :=
  SendRun.after (.ask (.pendingNonce req.sender)) <|
    match chain.pendingNonce req.sender with
    | .error e => fail store .built (.send req.uid req.method req.func e)
    | .ok nonce =>
        SendRun.after (.ask .gasPrice) <|
          match chain.gasPrice with
          | .error e => fail store .built (.send req.uid req.method req.func e)
          | .ok gasPrice =>
              (broadcast x chain timing req (saturatingAdd estimated x.gasBuffer) nonce gasPrice
                store).step .built .gasEstimated

def send (x : Executor) (chain : Chain) (timing : WaitTiming) (req : SendRequest)
    (store : AuditStore) : SendRun SendOutcome :=
  if !req.production then ⟨.ok .dryRun, [], [], store⟩
  else
    SendRun.after (.ask (.estimateGas (addressed req))) <|
      match chain.estimateGas (addressed req) with
      | .error e => fail store .built (.gasEstimation req.uid req.method req.func e)
      | .ok estimated => price x chain timing req estimated store

end Executor

end SwapDesk
