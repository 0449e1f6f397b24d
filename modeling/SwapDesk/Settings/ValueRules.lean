import SwapDesk.Document.Value
import SwapDesk.Json.Value
import SwapDesk.Settings.Basic
import SwapDesk.Settings.ChainList

/-!
How plain values become settings. Exact rules take each kind of value for what it is. Lenient rules,
which files and the environment need, also read flags and counts out of text and of one another.
-/

namespace SwapDesk

structure ValueRules (Value : Type) where
  isAbsent : Value → Bool
  flag? : Value → Option Bool
  count? : Value → Option UInt64
  text? : Value → Option String
  chains : Value → Except ConfigFault (List UInt64)
  address? : Value → Option Address
  members? : Value → Option (TextMap Value)

namespace ValueRules

def chainOfInt (n : Int) : Except ConfigFault (List UInt64) :=
  match n with
  | .ofNat n => if n < UInt64.size then .ok [UInt64.ofNat n] else .error .unreadable
  | .negSucc _ => .error (.invalidChainId (Text.integer n))

def chainsOfItems {Value : Type} (count? : Value → Option UInt64) (items : List Value) :
    Except ConfigFault (List UInt64) :=
  match items.mapM count? with
  | some ids => .ok ids
  | none => .error .unreadable

def addressOfBytes (bytes : Bytes) : Address :=
  Address.ofNat (Bytes.value bytes)

namespace Exact

def natBelow? (limit : Nat) : Json → Option Nat
  | .int (.ofNat n) => if n < limit then some n else none
  | _ => none

def flag? : Json → Option Bool
  | .bool b => some b
  | _ => none

def count? (j : Json) : Option UInt64 :=
  (natBelow? UInt64.size j).map UInt64.ofNat

def byte? (j : Json) : Option UInt8 :=
  (natBelow? UInt8.size j).map UInt8.ofNat

def text? : Json → Option String
  | .string s => some s
  | _ => none

def chains : Json → Except ConfigFault (List UInt64)
  | .string s => ChainList.read s
  | .int n => chainOfInt n
  | .array items => chainsOfItems count? items
  | _ => .error .unreadable

def spare : List Json → Bool
  | [] => true
  | [x] => (byte? x).isNone
  | _ => false

def address? : Json → Option Address
  | .string s => Address.ofText? s
  | .array items => (Bytes.ofItems? byte? spare 20 items).map addressOfBytes
  | _ => none

def members? : Json → Option (TextMap Json)
  | .object ms => some ms
  | _ => none

end Exact

def exact : ValueRules Json where
  isAbsent := fun
    | .null => true
    | _ => false
  flag? := Exact.flag?
  count? := Exact.count?
  text? := Exact.text?
  chains := Exact.chains
  address? := Exact.address?
  members? := Exact.members?

namespace Lenient

def wordFlag? (s : String) : Option Bool :=
  if ["true", "on", "yes"].contains s then some true
  else if ["false", "off", "no"].contains s then some false
  else none

def flag? : Document → Option Bool
  | .flag b => some b
  | .integer n => some (n != 0)
  | .real x => some (!x.isZero)
  | .text s =>
      let s := Text.lowerAscii s
      if s = "1" then some true
      else if s = "0" then some false
      else wordFlag? s
  | _ => none

def count? : Document → Option UInt64
  | .flag b => some (if b then 1 else 0)
  | .integer (.ofNat n) => if n < UInt64.size then some (UInt64.ofNat n) else none
  | .real x => some x.toUInt64
  | .text s =>
      match wordFlag? (Text.lowerAscii s) with
      | some b => some (if b then 1 else 0)
      | none => Text.readUInt64? s
  | _ => none

def byte? (d : Document) : Option UInt8 :=
  ((count? d).filter (· < UInt64.ofNat UInt8.size)).map UInt64.toUInt8

def text? : Document → Option String
  | .text s => some s
  | .flag b => some (if b then "true" else "false")
  | .integer n => some (Text.integer n)
  | .real x => some x.text
  | _ => none

def chains : Document → Except ConfigFault (List UInt64)
  | .text s => (ChainList.read s).mapError .inField
  | .integer n => chainOfInt n
  | .array items => chainsOfItems count? items
  | _ => .error .unreadable

def spare : List Document → Bool
  | [] => true
  | x :: _ => (byte? x).isNone

def address? : Document → Option Address
  | .text s => Address.ofText? s
  | .array items => (Bytes.ofItems? byte? spare 20 items).map addressOfBytes
  | _ => none

def members? : Document → Option (TextMap Document)
  | .table ms => some ms
  | _ => none

end Lenient

def lenient : ValueRules Document where
  isAbsent := fun
    | .gap => true
    | _ => false
  flag? := Lenient.flag?
  count? := Lenient.count?
  text? := Lenient.text?
  chains := Lenient.chains
  address? := Lenient.address?
  members? := Lenient.members?

variable {Value α : Type}

def map? (rules : ValueRules Value) (read : Value → Option α) (v : Value) : Option (TextMap α) :=
  (rules.members? v).bind fun ms => ms.mapM fun m => (read m.2).map (m.1, ·)

end ValueRules

namespace Settings

variable {Value α : Type}

def readable : Option α → Except ConfigFault α
  | some x => .ok x
  | none => .error .unreadable

/-- A setting that has a default; what leaves other settings open is no value for it. -/
def field (ms : TextMap Value) (key : String) (absent : α) (read : Value → Option α) :
    Except ConfigFault α :=
  match ms.get? key with
  | none => .ok absent
  | some v => readable (read v)

def optionalField (rules : ValueRules Value) (ms : TextMap Value) (key : String)
    (read : Value → Option α) : Except ConfigFault (Option α) :=
  match (ms.get? key).filter (!rules.isAbsent ·) with
  | none => .ok none
  | some v => (readable (read v)).map some

def chainsField (rules : ValueRules Value) (ms : TextMap Value) (absent : List UInt64) :
    Except ConfigFault (List UInt64) :=
  match ms.get? "chains" with
  | none => .ok absent
  | some v => rules.chains v

def read (rules : ValueRules Value) (ms : TextMap Value) : Except ConfigFault Settings := do
  let usual : Settings := {}
  let optional {α : Type} (key : String) (read : Value → Option α) :=
    optionalField rules ms key read
  return {
    debug := ← field ms "debug" usual.debug rules.flag?
    logJson := ← field ms "log_json" usual.logJson rules.flag?
    chains := ← chainsField rules ms usual.chains
    databaseUrl := ← optional "database_url" rules.text?
    dataDirectory := ← optional "data_dir" rules.text?
    walletKey := ← optional "wallet_key" rules.text?
    walletAddress := ← optional "wallet_address" rules.address?
    endpoints := ← optional "http_providers" (rules.map? rules.text?)
    tokenListPath := ← optional "tokenlist_path" rules.text?
    poolsPath := ← optional "pools_path" rules.text?
    routers := ← optional "routers_by_chain" (rules.map? (rules.map? rules.text?))
    batchContracts := ← optional "multicall_by_chain" (rules.map? rules.text?)
    production := ← field ms "transaction_prod_mode" usual.production rules.flag?
    waitConfirmation := ← field ms "wait_confirmation" usual.waitConfirmation rules.flag?
    timeoutMs := ← field ms "tx_confirmation_timeout_ms" usual.timeoutMs rules.count?
    blocks := ← field ms "tx_confirmation_blocks" usual.blocks rules.count?
    timeoutMsByChain := ← optional "tx_confirmation_timeout_ms_by_chain" (rules.map? rules.count?)
    blocksByChain := ← optional "tx_confirmation_blocks_by_chain" (rules.map? rules.count?)
    pollMs := ← field ms "receipt_poll_ms" usual.pollMs rules.count?
    gasBuffer := ← field ms "gas_limit_buffer" usual.gasBuffer rules.count?
    slippageBps := ← field ms "slippage_bps" usual.slippageBps rules.count?
    swapDeadlineSecs := ← field ms "swap_deadline_secs" usual.swapDeadlineSecs rules.count? }

end Settings

end SwapDesk
