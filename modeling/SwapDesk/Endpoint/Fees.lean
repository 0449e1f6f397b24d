import SwapDesk.Endpoint.Answer

namespace SwapDesk

structure FeeCaps where
  most : Nat
  tip : Nat
deriving DecidableEq

structure FeeHistory where
  baseFees : List Nat
  tips : List Nat

namespace FeeHistory

/-- The base fee of the latest block; blocks without one count as asking for nothing. -/
def latestBase? (h : FeeHistory) : Option Nat :=
  (h.baseFees.reverse[1]?).filter (0 < ·)

def median (amounts : List Nat) : Nat :=
  let sorted := amounts.mergeSort (· ≤ ·)
  let n := sorted.length
  if n % 2 = 0 then (sorted.getD (n / 2 - 1) 0 + sorted.getD (n / 2) 0) / 2
  else sorted.getD (n / 2) 0

/-- The middle of the tips that were anything at all, and at least one. -/
def tip (h : FeeHistory) : Nat :=
  max (median (h.tips.filter (0 < ·))) 1

def caps (h : FeeHistory) (base : Nat) : FeeCaps :=
  ⟨2 * base + h.tip, h.tip⟩

end FeeHistory

namespace Answer

def amount? : Json → Option Nat :=
  natBelow? (2 ^ 128)

def isNumber : Json → Bool
  | .int _ | .real _ => true
  | _ => false

def ratio? (j : Json) : Option Unit :=
  if isNumber j then some () else none

def feeHistory? (j : Json) : Option FeeHistory := do
  let _ ← defaulted? j "oldestBlock" 0 uint64?
  let _ ← required? j "gasUsedRatio" (items? ratio?)
  let _ ← defaulted? j "blobGasUsedRatio" [] (items? ratio?)
  let _ ← defaulted? j "baseFeePerBlobGas" [] (items? amount?)
  let baseFees ← defaulted? j "baseFeePerGas" [] (items? amount?)
  let rewards ← optional? j "reward" (items? (items? amount?))
  return ⟨baseFees, (rewards.getD []).filterMap List.head?⟩

def blockHashes : List String :=
  ["hash", "parentHash", "sha3Uncles", "stateRoot", "transactionsRoot", "receiptsRoot", "mixHash"]

def blockQuantities : List String :=
  ["number", "gasLimit", "gasUsed", "timestamp"]

def rarerHashes : List String :=
  ["withdrawalsRoot", "parentBeaconBlockRoot", "requestsHash"]

def rarerQuantities : List String :=
  ["blobGasUsed", "excessBlobGas"]

def amount256? : Json → Option Nat :=
  natBelow? (2 ^ 256)

/-- The base fee of a block, which some chains do not have. A block has to be told of in full, with
its transactions by hash. -/
def blockFee? (j : Json) : Option (Option Nat) := do
  let _ ← blockHashes.mapM fun key => required? j key (hash? spare)
  let _ ← blockQuantities.mapM fun key => required? j key uint64?
  let _ ← required? j "miner" (address? spare)
  let _ ← required? j "logsBloom" (fixed? spare 256)
  let _ ← required? j "nonce" (fixed? spare 8)
  let _ ← required? j "difficulty" amount256?
  let _ ← required? j "extraData" bytes?
  let _ ← rarerHashes.mapM fun key => optional? j key (hash? spare)
  let _ ← rarerQuantities.mapM fun key => optional? j key uint64?
  let _ ← optional? j "totalDifficulty" amount256?
  let _ ← optional? j "size" amount256?
  let _ ← defaulted? j "uncles" [] (items? (hash? spare))
  let _ ← optional? j "transactions" (items? (hash? spare))
  optional? j "baseFeePerGas" (natBelow? UInt64.size)

end Answer

end SwapDesk
