import SwapDesk.Chain.Basic
import SwapDesk.Json.Value

namespace SwapDesk.Answer

def base : List Char → Nat × List Char
  | '0' :: 'x' :: ds => (16, ds)
  | '0' :: 'X' :: ds => (16, ds)
  | '0' :: 'o' :: ds => (8, ds)
  | '0' :: 'O' :: ds => (8, ds)
  | '0' :: 'b' :: ds => (2, ds)
  | '0' :: 'B' :: ds => (2, ds)
  | ds => (10, ds)

/-- Digits below a base, with underscores at will; no digits are zero. -/
def numeral? (base : Nat) (cs : List Char) : Option Nat :=
  (cs.filter (· != '_')).foldlM
    (fun acc c => ((Text.hexValue? c).filter (· < base)).map (acc * base + ·)) 0

def natBelow? (limit : Nat) : Json → Option Nat
  | .string s =>
      let (base, digits) := base s.toList
      (numeral? base digits).filter (· < limit)
  | .int (.ofNat n) => if n < limit then some n else none
  | _ => none

def uint64? (j : Json) : Option UInt64 :=
  (natBelow? UInt64.size j).map UInt64.ofNat

def gasPrice? (j : Json) : Option GasPrice :=
  (natBelow? (2 ^ 128) j).map (BitVec.ofNat 128)

def byte? (j : Json) : Option UInt8 :=
  match j with
  | .int (.ofNat n) => if n < UInt8.size then some (UInt8.ofNat n) else none
  | _ => none

def bytes? : Json → Option Bytes
  | .string s => Text.readHex? s
  | .array items => items.mapM byte?
  | _ => none

/-- What may follow the bytes of an array of a fixed length: one item that is no byte. -/
def spare : List Json → Bool
  | [] => true
  | [x] => (byte? x).isNone
  | _ => false

def outerSpare : List Json → Bool
  | [.array _] | [.object _] => false
  | rest => spare rest

def fixed? (spare : List Json → Bool) (width : Nat) : Json → Option Nat
  | .string s => Text.readFixedHex? width s
  | .array items => (Bytes.ofItems? byte? spare width items).map Bytes.value
  | _ => none

def address? (spare : List Json → Bool) (j : Json) : Option Address :=
  (fixed? spare 20 j).map Address.ofNat

def hash? (spare : List Json → Bool) (j : Json) : Option Hash :=
  (fixed? spare 32 j).map fun n => ⟨BitVec.ofNat 256 n⟩

def nullable? {α : Type} (read : Json → Option α) : Json → Option (Option α)
  | .null => some none
  | j => (read j).map some

def required? {α : Type} (j : Json) (key : String) (read : Json → Option α) : Option α :=
  (j.get? key).bind read

def optional? {α : Type} (j : Json) (key : String) (read : Json → Option α) :
    Option (Option α) :=
  nullable? read (j.getD key)

def defaulted? {α : Type} (j : Json) (key : String) (absent : α) (read : Json → Option α) :
    Option α :=
  match j.get? key with
  | none => some absent
  | some v => read v

def flag? : Json → Option Bool
  | .bool b => some b
  | _ => none

def items? {α : Type} (read : Json → Option α) : Json → Option (List α)
  | .array items => items.mapM read
  | _ => none

def log? (j : Json) : Option LogEntry := do
  let address ← required? j "address" (address? spare)
  let topics ← required? j "topics" (items? (hash? spare))
  let data ← required? j "data" bytes?
  let _ ← optional? j "blockHash" (hash? spare)
  let _ ← required? j "blockNumber" (nullable? uint64?)
  let _ ← optional? j "blockTimestamp" uint64?
  let _ ← optional? j "transactionHash" (hash? spare)
  let _ ← required? j "transactionIndex" (nullable? uint64?)
  let _ ← required? j "logIndex" (nullable? uint64?)
  let _ ← defaulted? j "removed" false flag?
  return ⟨address, topics, data⟩

def kinds : List String :=
  ["0x0", "0x00", "0x1", "0x01", "0x2", "0x02", "0x3", "0x03", "0x4", "0x04"]

def isKind : Json → Bool
  | .string s => kinds.contains s
  | .int n => 0 ≤ n && n ≤ 4
  | _ => false

/-- A status flag; receipts that have a state root instead tell of success. -/
def status? (j : Json) : Option Bool :=
  match required? j "status" (natBelow? 2) with
  | some n => some (n == 1)
  | none => (required? j "root" (hash? spare)).map fun _ => true

/-- The price that was paid, under one of its two names; null stands for nothing. -/
def paidPrice? (j : Json) : Option GasPrice :=
  match j.get? "effectiveGasPrice", j.get? "gasPrice" with
  | some v, none | none, some v => (nullable? gasPrice? v).map (·.getD 0)
  | _, _ => none

def receipt? (hash : Hash) (j : Json) : Option Receipt := do
  let _ ← required? j "type" fun v => if isKind v then some () else none
  let status ← status? j
  let _ ← required? j "cumulativeGasUsed" uint64?
  let logs ← required? j "logs" (items? log?)
  let _ ← required? j "logsBloom" (fixed? spare 256)
  let _ ← required? j "transactionHash" (hash? outerSpare)
  let _ ← optional? j "transactionIndex" uint64?
  let _ ← optional? j "blockHash" (hash? outerSpare)
  let block ← optional? j "blockNumber" uint64?
  let gasUsed ← required? j "gasUsed" uint64?
  let gasPrice ← paidPrice? j
  let _ ← optional? j "blobGasUsed" uint64?
  let _ ← optional? j "blobGasPrice" gasPrice?
  let _ ← required? j "from" (address? outerSpare)
  let _ ← optional? j "to" (address? outerSpare)
  let _ ← optional? j "contractAddress" (address? outerSpare)
  return { hash, block, status, gasUsed, gasPrice, logs }

end SwapDesk.Answer
