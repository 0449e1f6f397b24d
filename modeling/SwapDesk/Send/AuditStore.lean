import SwapDesk.Chain.Basic
import SwapDesk.Json.Printer
import SwapDesk.Json.Reader

/-!
The audit trail: one row for every broadcast transaction. Rows are appended once and never removed;
only the receipt columns change later. Integers are stored in 63 bits.
-/

namespace SwapDesk

structure AuditRow where
  id : Nat
  uid : Uid
  chain : UInt64
  method : String
  func : String
  context : String
  hash : Hash
  sender : Address
  target : Option Address
  nonce : UInt64
  gasLimit : UInt64
  gasPrice : GasPrice
  gasUsed : Option UInt64 := none
  block : Option UInt64 := none
  status : Option Bool := none
deriving DecidableEq, Inhabited

/-- The context as a value; text that is no JSON gives null. -/
def AuditRow.contextJson (row : AuditRow) : Json :=
  (Json.parse? row.context).getD .null

structure NewRow where
  uid : Uid
  chain : UInt64
  method : String
  func : String
  context : Json
  hash : Hash
  sender : Address
  target : Option Address
  nonce : UInt64
  gasLimit : UInt64
  gasPrice : GasPrice
deriving Inhabited

structure RowUpdate where
  block : UInt64
  gasUsed : UInt64
  gasPrice : GasPrice
  status : Bool
deriving DecidableEq, Inhabited

structure AuditStore where
  rows : List AuditRow := []
deriving DecidableEq, Inhabited

namespace AuditStore

def integerLimit : Nat := 2 ^ 63

def inRange (field : String) (value : UInt64) : Except StoreFault Unit :=
  if value.toNat < integerLimit then .ok () else .error (.outOfRange field value)

def nextId (s : AuditStore) : Nat :=
  s.rows.length + 1

def rowOf (id : Nat) (r : NewRow) : AuditRow :=
  { id := id, uid := r.uid, chain := r.chain, method := r.method, func := r.func
    context := r.context.render, hash := r.hash, sender := r.sender, target := r.target
    nonce := r.nonce, gasLimit := r.gasLimit, gasPrice := r.gasPrice }

def checkNew (s : AuditStore) (r : NewRow) : Except StoreFault Unit := do
  inRange "chain_id" r.chain
  inRange "nonce" r.nonce
  inRange "gas_limit" r.gasLimit
  if s.rows.any fun row => row.hash == r.hash then .error .duplicateHash else .ok ()

/-- Appends a row, unless its hash is known or a value is out of range. -/
def save (s : AuditStore) (r : NewRow) : Except StoreFault (AuditRow × AuditStore) :=
  (checkNew s r).map fun _ =>
    let row := rowOf s.nextId r
    (row, ⟨s.rows ++ [row]⟩)

def updated (u : RowUpdate) (row : AuditRow) : AuditRow :=
  { row with
      block := some u.block, gasUsed := some u.gasUsed, gasPrice := u.gasPrice
      status := some u.status }

def checkUpdate (s : AuditStore) (hash : Hash) (u : RowUpdate) : Except StoreFault Unit := do
  inRange "block_number" u.block
  inRange "gas_used" u.gasUsed
  if s.rows.any fun row => row.hash == hash then .ok () else .error .unknownHash

def confirm (s : AuditStore) (hash : Hash) (u : RowUpdate) : Except StoreFault AuditStore :=
  (checkUpdate s hash u).map fun _ =>
    ⟨s.rows.map fun row => if row.hash = hash then updated u row else row⟩

def forUid (s : AuditStore) (uid : Uid) : List AuditRow :=
  s.rows.filter fun row => row.uid == uid

/-- Newest first; a negative limit is none. -/
def recent (s : AuditStore) (limit : Int) : List AuditRow :=
  match limit with
  | .ofNat n => s.rows.reverse.take n
  | .negSucc _ => s.rows.reverse

def count (s : AuditStore) : Nat :=
  s.rows.length

end AuditStore

end SwapDesk
