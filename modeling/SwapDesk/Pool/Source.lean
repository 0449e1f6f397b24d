import SwapDesk.Failure
import SwapDesk.Pool.Basic
import SwapDesk.Json.Record

/-!
Where pools are listed: a fixed list, or a file that is read afresh for every request. Only the file
leaves out pools whose two tokens are equal.
-/

namespace SwapDesk

structure PoolEntry where
  chain : UInt64
  pool : Pool
deriving DecidableEq, Inhabited

namespace PoolEntry

def platform? : Json.Written → Option Platform
  | .string s => s.bind Platform.ofName?
  | .object [(some name, .null)] => Platform.ofName? name
  | _ => none

def read? (w : Json.Written) : Option PoolEntry := do
  let fields ← w.fields? ["platform", "chainId", "token0", "token1", "address", "poolId"]
  match fields with
  | [some platform, some chain, some token0, some token1, some address, poolId] => do
      let platform ← platform? platform
      let chain ← chain.uint64?
      let token0 ← token0.address?
      let token1 ← token1.address?
      let address ← address.address?
      let poolId ← Json.Written.optional? Json.Written.uint64? poolId
      return ⟨chain, platform, token0, token1, address, poolId⟩
  | _ => none

def readAll? (text : String) : Option (List PoolEntry) := do
  let w ← Json.write? text
  let items ← w.array?
  items.mapM read?

end PoolEntry

abbrev PoolSource := UInt64 → Platform → Except Failure (List Pool)

namespace PoolSource

def select (entries : List PoolEntry) (chain : UInt64) (platform : Platform) : List Pool :=
  (entries.filter fun e => e.chain == chain && e.pool.platform == platform).map PoolEntry.pool

def fixed (entries : List PoolEntry) : PoolSource :=
  fun chain platform => .ok (select entries chain platform)

def fixedOfText (text : String) : Except Failure PoolSource :=
  match PoolEntry.readAll? text with
  | none => .error (.config (.malformedPools none))
  | some entries => .ok (fixed entries)

/-- The pools of a file, given what reading the file gave. -/
def file (path : String) (content : Option String) : PoolSource :=
  fun chain platform =>
    match content with
    | none => .error (.config (.unreadablePools path))
    | some text =>
        match PoolEntry.readAll? text with
        | none => .error (.config (.malformedPools (some path)))
        | some entries =>
            .ok ((select entries chain platform).filter fun p => !p.isSelfPair)

end PoolSource

end SwapDesk
