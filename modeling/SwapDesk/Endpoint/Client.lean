import SwapDesk.Endpoint.Submission

namespace SwapDesk

structure RpcClient where
  endpoint : Endpoint
  chainId : UInt64
  /-- The account that signs, if the node is not to. -/
  wallet : Option Address := none

namespace RpcClient

def failed (method : String) : Failure :=
  .rpc method unstated

def read? {α : Type} (decode : Json → Option α) : RpcReply → Option α
  | .result value => decode value
  | .failure => none

def ask {α : Type} (c : RpcClient) (request : RpcRequest) (before : Nat)
    (decode : Json → Option α) : Except Failure α :=
  match read? decode (c.endpoint request before) with
  | some x => .ok x
  | none => .error (failed request.method)

/-- Reads are made in the name of the wallet unless they name an account. -/
def inName (c : RpcClient) (t : Transaction) : Transaction :=
  { t with sender := t.sender.or c.wallet }

def servedChain? (c : RpcClient) : Option UInt64 :=
  read? Answer.uint64? (c.endpoint .chainId 0)

def submission (c : RpcClient) (t : Transaction) : Submission :=
  ⟨c.endpoint, c.inName t, c.wallet.isSome⟩

def broadcast (c : RpcClient) (t : Transaction) : Except Failure Hash :=
  match (c.submission t).run.hold.1 with
  | some hash => .ok hash
  | none => .error (failed "eth_sendRawTransaction")

def chain (c : RpcClient) : Chain where
  chainId := c.chainId
  head := fun n => c.ask .head n Answer.uint64?
  call := fun t block => c.ask (.call (c.inName t) block) 0 Answer.bytes?
  estimateGas := fun t => c.ask (.estimateGas (c.inName t)) 0 Answer.uint64?
  pendingNonce := fun account => c.ask (.pendingNonce account) 0 Answer.uint64?
  gasPrice := c.ask .gasPrice 0 Answer.gasPrice?
  broadcast := c.broadcast
  receipt := fun hash n => c.ask (.receipt hash) n (Answer.nullable? (Answer.receipt? hash))

def requests (c : RpcClient) : ChainCall → List RpcRequest
  | .head => [.head]
  | .call t block => [.call (c.inName t) block]
  | .estimateGas t => [.estimateGas (c.inName t)]
  | .pendingNonce account => [.pendingNonce account]
  | .gasPrice => [.gasPrice]
  | .broadcast t => (c.submission t).run.hold.2
  | .receipt hash => [.receipt hash]

def verify (c : RpcClient) (expected : UInt64) : Except Failure Unit :=
  match c.servedChain? with
  | none => .error (.connection ("eth_chainId failed: " ++ unstated))
  | some served =>
      if served = expected then .ok () else .error (.config (.servesOtherChain served expected))

end RpcClient

end SwapDesk
