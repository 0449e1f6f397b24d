import SwapDesk.Failure

/-!
What a chain is asked and what it answers. A chain is given by its answers; the n-th reading of
something that changes has number n.
-/

namespace SwapDesk

inductive Destination where
  | account (address : Address)
  | creation
deriving DecidableEq, Inhabited

/-- A transaction request; what is not set is left to the node. -/
structure Transaction where
  destination : Option Destination := none
  input : Option Bytes := none
  data : Option Bytes := none
  sender : Option Address := none
  gas : Option UInt64 := none
  nonce : Option UInt64 := none
  gasPrice : Option GasPrice := none
deriving DecidableEq, Inhabited

namespace Transaction

/-- The bytes sent along; `input` goes before the older `data`. -/
def payload? (t : Transaction) : Option Bytes :=
  t.input.or t.data

def target? (t : Transaction) : Option Address :=
  match t.destination with
  | some (.account a) => some a
  | _ => none

def call (contract : Address) (payload : Bytes) : Transaction :=
  { destination := some (.account contract), input := some payload }

end Transaction

structure LogEntry where
  address : Address
  topics : List Hash
  data : Bytes
deriving DecidableEq, Inhabited

structure Receipt where
  hash : Hash
  block : Option UInt64
  status : Bool
  gasUsed : UInt64
  gasPrice : GasPrice
  logs : List LogEntry
deriving DecidableEq, Inhabited

structure Chain where
  chainId : UInt64
  head : Nat → Except Failure UInt64
  call : Transaction → UInt64 → Except Failure Bytes
  estimateGas : Transaction → Except Failure UInt64
  pendingNonce : Address → Except Failure UInt64
  gasPrice : Except Failure GasPrice
  broadcast : Transaction → Except Failure Hash
  receipt : Hash → Nat → Except Failure (Option Receipt)

/-- The chain once `n` block numbers have been read. -/
def Chain.afterHeads (c : Chain) (n : Nat) : Chain :=
  { c with head := fun k => c.head (n + k) }

inductive ChainCall where
  | head
  | call (transaction : Transaction) (block : UInt64)
  | estimateGas (transaction : Transaction)
  | pendingNonce (account : Address)
  | gasPrice
  | broadcast (transaction : Transaction)
  | receipt (hash : Hash)
deriving DecidableEq

end SwapDesk
