import SwapDesk.Abi.Decode
import SwapDesk.Route.SwapCall
import SwapDesk.Send.Executor

namespace SwapDesk

structure BatchRequest where
  calls : List PreparedCall
  contract : Address
  method : String
  uid : Uid
  sender : Address
  production : Bool
  waitConfirmation : Bool
  check : Option ReceiptCheck := none
deriving Inhabited

namespace Batch

def func : String := "multicall"

/-- `multicall(bytes[])` -/
def selector : Bytes := [0xac, 0x96, 0x50, 0xd8]

def encode (payloads : List Bytes) : Bytes :=
  selector ++ Abi.single (Abi.array (payloads.map Abi.bytes))

def decode? (calldata : Bytes) : Option (List Bytes) :=
  if calldata.take 4 = selector then
    Abi.readSingle? (Abi.readArray? Abi.readBytes?) (calldata.drop 4)
  else none

def stray? (req : BatchRequest) : Option PreparedCall :=
  req.calls.find? fun c => c.target != req.contract

def strayReason (c : PreparedCall) (contract : Address) : String :=
  c.func ++ " targets " ++ c.target.text ++ ", batch contract is " ++ contract.text

def context (calls : List PreparedCall) : Json :=
  .ofMembers
    [("multicall", .array (calls.map PreparedCall.context)),
     ("funcs", .strings (calls.map PreparedCall.func))]

def sendRequest (req : BatchRequest) : SendRequest :=
  { transaction := Transaction.call req.contract (encode (req.calls.map PreparedCall.calldata))
    method := req.method
    func := func
    context := context req.calls
    uid := req.uid
    sender := req.sender
    production := req.production
    waitConfirmation := req.waitConfirmation
    check := req.check }

end Batch

/-- Sends all calls or none; `none` as outcome means that there was nothing to send. -/
def Executor.sendBatch (x : Executor) (chain : Chain) (timing : WaitTiming) (req : BatchRequest)
    (store : AuditStore) : SendRun (Option SendOutcome) :=
  if req.calls.isEmpty then ⟨.ok none, [], [], store⟩
  else
    match Batch.stray? req with
    | some c =>
        ⟨.error (.failed (.multicall req.uid (Batch.strayReason c req.contract))), [], [], store⟩
    | none => (x.send chain timing (Batch.sendRequest req) store).map some

end SwapDesk
