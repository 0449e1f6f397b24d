import SwapDesk.Abi.Decode
import SwapDesk.Chain.Basic

/-!
Many reads in one call. The batching contract answers every sub-call against one block state, and a
sub-call that reverts does not fail the others.
-/

namespace SwapDesk

structure SubCall where
  target : Address
  data : Bytes
deriving DecidableEq, Inhabited

structure SubResult where
  success : Bool
  data : Bytes
deriving DecidableEq, Inhabited

def SubResult.answer? (r : SubResult) : Option Bytes :=
  if r.success then some r.data else none

namespace BatchRead

/-- `aggregate3((address,bool,bytes)[])` -/
def selector : Bytes := [0x82, 0xad, 0x56, 0xcb]

def encodeCall (c : SubCall) : Bytes :=
  c.target.toWord.toBytes ++ (Abi.word 1 ++ (Abi.word 96 ++ Abi.bytes c.data))

def encodeCalls (calls : List SubCall) : Bytes :=
  selector ++ Abi.single (Abi.array (calls.map encodeCall))

def decodeCall? (tuple : Bytes) : Option (Address × Bool × Bytes) := do
  let target ← Abi.readWord? tuple
  let allowed ← Abi.readWord? (tuple.drop 32)
  let body ← Abi.follow? tuple (tuple.drop 64)
  let data ← Abi.readBytes? body
  return (Address.ofWord target, allowed != 0, data)

def decodeCalls? (calldata : Bytes) : Option (List (Address × Bool × Bytes)) :=
  if calldata.take 4 = selector then
    Abi.readSingle? (Abi.readArray? decodeCall?) (calldata.drop 4)
  else none

def encodeResult (r : SubResult) : Bytes :=
  Abi.word (if r.success then 1 else 0) ++ (Abi.word 64 ++ Abi.bytes r.data)

def encodeResults (results : List SubResult) : Bytes :=
  Abi.single (Abi.array (results.map encodeResult))

/-- Any word but zero means success. -/
def decodeResult? (tuple : Bytes) : Option SubResult := do
  let success ← Abi.readWord? tuple
  let body ← Abi.follow? tuple (tuple.drop 32)
  let data ← Abi.readBytes? body
  return ⟨success != 0, data⟩

def decodeResults? (reply : Bytes) : Option (List SubResult) :=
  Abi.readSingle? (Abi.readArray? decodeResult?) reply

inductive Fault where
  | callFailed (block : UInt64) (failure : Failure)
  | undecodable
  | miscounted (results calls : Nat)
deriving DecidableEq

def Fault.message : Fault → String
  | callFailed block failure =>
      "aggregate3 at block " ++ Text.decimal block.toNat ++ ": " ++ failure.message
  | undecodable => "aggregate3 decode: " ++ unstated
  | miscounted results calls =>
      "aggregate3 returned " ++ Text.decimal results ++ " results for " ++ Text.decimal calls ++
        " calls"

/-- What a reply says about `count` sub-calls; `none` marks one that reverted. -/
def answers (count : Nat) (block : UInt64) (reply : Except Failure Bytes) :
    Except Fault (List (Option Bytes)) :=
  match reply with
  | .error e => .error (.callFailed block e)
  | .ok bytes =>
      match decodeResults? bytes with
      | none => .error .undecodable
      | some results =>
          if results.length = count then .ok (results.map SubResult.answer?)
          else .error (.miscounted results.length count)

def transaction (contract : Address) (calls : List SubCall) : Transaction :=
  Transaction.call contract (encodeCalls calls)

structure Run where
  result : Except Failure (List (Option Bytes))
  calls : List ChainCall

/-- No sub-calls need no call. -/
def run (chain : Chain) (contract : Address) (calls : List SubCall) (block : UInt64) (uid : Uid) :
    Run :=
  if calls.isEmpty then ⟨.ok [], []⟩
  else
    let t := transaction contract calls
    ⟨(answers calls.length block (chain.call t block)).mapError
        fun fault => .multicall uid fault.message,
      [.call t block]⟩

end BatchRead

end SwapDesk
