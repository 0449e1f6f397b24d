import SwapDesk.Platform

namespace SwapDesk

structure Pool where
  platform : Platform
  token0 : Address
  token1 : Address
  address : Address
  poolId : Option UInt64 := none
deriving DecidableEq, Inhabited

namespace Pool

def contains (p : Pool) (token : Address) : Bool :=
  p.token0 == token || p.token1 == token

def connects (p : Pool) (a b : Address) : Bool :=
  (p.token0 == a && p.token1 == b) || (p.token0 == b && p.token1 == a)

def other? (p : Pool) (token : Address) : Option Address :=
  if p.token0 = token then some p.token1
  else if p.token1 = token then some p.token0
  else none

def isSelfPair (p : Pool) : Bool :=
  p.token0 == p.token1

theorem connects_of_other? {p : Pool} {a b : Address} (h : p.other? a = some b) :
    p.connects a b = true := by
  unfold other? at h
  split at h
  · simp_all [connects]
  · split at h <;> simp_all [connects]

end Pool

structure Hop where
  platform : Platform
  pool : Address
  tokenIn : Address
  tokenOut : Address
deriving DecidableEq, Inhabited

/-- One or two hops on one platform; the second starts where the first ends. -/
inductive TradePath where
  | direct (hop : Hop)
  | via (first second : Hop) (joined : first.tokenOut = second.tokenIn)
      (together : first.platform = second.platform)
deriving DecidableEq

namespace TradePath

def ofHops? : List Hop → Option TradePath
  | [hop] => some (.direct hop)
  | [first, second] =>
      if h : first.tokenOut = second.tokenIn ∧ first.platform = second.platform then
        some (.via first second h.1 h.2)
      else none
  | _ => none

def hops : TradePath → List Hop
  | direct hop => [hop]
  | via first second _ _ => [first, second]

def length (p : TradePath) : Nat :=
  p.hops.length

def firstHop : TradePath → Hop
  | direct hop => hop
  | via first _ _ _ => first

def lastHop : TradePath → Hop
  | direct hop => hop
  | via _ second _ _ => second

def platform (p : TradePath) : Platform := p.firstHop.platform

def tokenIn (p : TradePath) : Address := p.firstHop.tokenIn

def tokenOut (p : TradePath) : Address := p.lastHop.tokenOut

def tokens (p : TradePath) : List Address :=
  p.tokenIn :: p.hops.map Hop.tokenOut

@[simp] theorem ofHops?_hops (p : TradePath) : ofHops? p.hops = some p := by
  cases p with
  | direct hop => rfl
  | via first second joined together => simp [hops, ofHops?, joined, together]

theorem length_tokens (p : TradePath) : p.tokens.length = p.length + 1 := by
  simp [tokens, length]

theorem length_le_two (p : TradePath) : p.length ≤ 2 := by
  cases p <;> simp [length, hops]

def ofPool? (p : Pool) (tokenIn tokenOut : Address) : Option TradePath :=
  if p.connects tokenIn tokenOut then
    some (.direct ⟨p.platform, p.address, tokenIn, tokenOut⟩)
  else none

def ofPools? (first second : Pool) (tokenIn tokenOut : Address) : Option TradePath := do
  let mid ← first.other? tokenIn
  let last ← second.other? mid
  if last = tokenOut then
    ofHops? [⟨first.platform, first.address, tokenIn, mid⟩,
      ⟨second.platform, second.address, mid, tokenOut⟩]
  else none

end TradePath

end SwapDesk
