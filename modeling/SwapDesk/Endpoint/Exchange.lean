import SwapDesk.Endpoint.Fees

namespace SwapDesk

structure RpcRequest where
  method : String
  params : Option Json
deriving Inhabited

inductive RpcReply where
  | result (value : Json)
  /-- An error that the node reports, or no answer at all. -/
  | failure
deriving Inhabited

/-- The answer to a request, by how many came before it in its own series. -/
abbrev Endpoint := RpcRequest → Nat → RpcReply

def Endpoint.unreachable : Endpoint := fun _ _ => .failure

namespace Transaction

def quantityJson (n : Nat) : Json := .string (Text.hexQuantity n)

def bytesJson (bytes : Bytes) : Json := .string (Text.hex bytes)

def destinationJson : Destination → Json
  | .account a => .string a.text
  | .creation => .null

def member {α : Type} (key : String) (f : α → Json) : Option α → List (String × Json)
  | some x => [(key, f x)]
  | none => []

def members (t : Transaction) : List (String × Json) :=
  member "from" (fun a => .string a.text) t.sender ++
  member "to" destinationJson t.destination ++
  member "gas" (fun n => quantityJson n.toNat) t.gas ++
  member "gasPrice" (fun p => quantityJson p.toNat) t.gasPrice ++
  member "nonce" (fun n => quantityJson n.toNat) t.nonce ++
  member "input" bytesJson t.input ++
  member "data" bytesJson t.data

end Transaction

namespace RpcRequest

def chainId : RpcRequest := ⟨"eth_chainId", none⟩

def head : RpcRequest := ⟨"eth_blockNumber", none⟩

def gasPrice : RpcRequest := ⟨"eth_gasPrice", none⟩

def call (t : Transaction) (block : UInt64) : RpcRequest :=
  ⟨"eth_call", some (.array [.ofMembers t.members, Transaction.quantityJson block.toNat])⟩

def estimateGas (t : Transaction) : RpcRequest :=
  ⟨"eth_estimateGas", some (.array [.ofMembers t.members, .string "pending"])⟩

def pendingNonce (account : Address) : RpcRequest :=
  ⟨"eth_getTransactionCount", some (.array [.string account.text, .string "pending"])⟩

def settledNonce (account : Address) : RpcRequest :=
  ⟨"eth_getTransactionCount", some (.array [.string account.text, .string "latest"])⟩

/-- The fees of ten blocks, and the tip that a fifth of the gas was bought with at most. -/
def feeHistory : RpcRequest :=
  let fifth : Binary64 := ⟨false, 20, 0⟩
  ⟨"eth_feeHistory", some (.array
    [Transaction.quantityJson 10, .string "latest", .array [.real fifth]])⟩

def latestBlock : RpcRequest :=
  ⟨"eth_getBlockByNumber", some (.array [.string "latest", .bool false])⟩

def receipt (hash : Hash) : RpcRequest :=
  ⟨"eth_getTransactionReceipt", some (.array [.string hash.text])⟩

def broadcast (t : Transaction) (fees : Option FeeCaps) (chain : UInt64) : RpcRequest :=
  let terms := match fees with
    | none => [("type", .string "0x0")]
    | some caps =>
        [("type", .string "0x2"), ("maxFeePerGas", Transaction.quantityJson caps.most),
         ("maxPriorityFeePerGas", Transaction.quantityJson caps.tip)]
  ⟨"eth_sendTransaction", some (.array [.ofMembers
    (t.members ++ ("chainId", Transaction.quantityJson chain.toNat) :: terms)])⟩

/-- A transaction that a wallet has signed. Its raw form is the wallet's business. -/
def broadcastSigned : RpcRequest := ⟨"eth_sendRawTransaction", none⟩

end RpcRequest

end SwapDesk
