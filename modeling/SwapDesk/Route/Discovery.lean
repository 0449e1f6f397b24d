import SwapDesk.Pool.Source

namespace SwapDesk.Discovery

def direct? (pools : List Pool) (a b : Address) : Option Pool :=
  pools.find? fun p => p.connects a b

def pairsFrom (pools : List Pool) (a b : Address) (seen : List Address) :
    List Pool → List (Pool × Pool)
  | [] => []
  | first :: rest =>
      match first.other? a with
      | none => pairsFrom pools a b seen rest
      | some mid =>
          if mid = b ∨ mid = a ∨ mid ∈ seen then pairsFrom pools a b seen rest
          else
            match direct? pools mid b with
            | some second => (first, second) :: pairsFrom pools a b (mid :: seen) rest
            | none => pairsFrom pools a b (mid :: seen) rest

def intermediates (pools : List Pool) (a b : Address) : List (Pool × Pool) :=
  pairsFrom pools a b [] pools

def directPaths (pools : List Pool) (a b : Address) : List TradePath :=
  (direct? pools a b).toList.filterMap fun p => TradePath.ofPool? p a b

def viaPaths (pools : List Pool) (a b : Address) : List TradePath :=
  (intermediates pools a b).filterMap fun pair => TradePath.ofPools? pair.1 pair.2 a b

/-- The direct path first, then the paths through intermediate tokens. -/
def paths (pools : List Pool) (a b : Address) : List TradePath :=
  directPaths pools a b ++ viaPaths pools a b

def findDirect (source : PoolSource) (a b : Address) (platform : Platform) (chain : UInt64) :
    Except Failure (Option Pool) :=
  (source chain platform).map fun pools => direct? pools a b

/-- Searches one platform, or all of them by priority. -/
def findIntermediates (source : PoolSource) (a b : Address) (platform : Option Platform)
    (chain : UInt64) : Except Failure (List (Pool × Pool)) := do
  let platforms := match platform with
    | some p => [p]
    | none => Platform.byPriority
  let found ← platforms.mapM fun p => (source chain p).map fun pools => intermediates pools a b
  return found.flatten

def candidates (source : PoolSource) (a b : Address) (platform : Platform) (chain : UInt64) :
    Except Failure (List TradePath) :=
  (source chain platform).map fun pools => paths pools a b

end SwapDesk.Discovery
