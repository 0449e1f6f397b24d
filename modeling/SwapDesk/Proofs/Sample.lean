import SwapDesk.Route.Router
import SwapDesk.Send.Executor

namespace SwapDesk.Sample

/-! Markets, waits and orders that several theorems are tried at. -/

def chain (reply : Except Failure Bytes) : Chain where
  chainId := 56
  head _ := .ok 7
  call _ _ := reply
  estimateGas _ := .ok 21000
  pendingNonce _ := .ok 0
  gasPrice := .ok 3
  broadcast _ := .ok ⟨1⟩
  receipt _ _ := .ok none

def pool (platform : Platform) (token0 token1 address : Nat) : PoolEntry :=
  ⟨56, platform, .ofNat token0, .ofNat token1, .ofNat address, none⟩

/-- Two tokens with a pool on one platform, a path through a third token on another, and a second
path through a fourth. -/
def market (results : List SubResult) : TradeRouter where
  tokens := .ofList [⟨56, "BTC", .ofNat 1, 18⟩, ⟨56, "FIL", .ofNat 2, 18⟩]
  source := PoolSource.fixed [pool .biswap 1 2 80, pool .pancake 1 3 81, pool .pancake 2 3 82,
    pool .biswap 1 4 83, pool .biswap 4 2 84]
  routers := { pancake := some (.ofNat 101), biswap := some (.ofNat 103) }
  batch := batchContract
  chain := chain (.ok (BatchRead.encodeResults results))

def request : RouteRequest where
  tokenIn := "BTC"
  tokenOut := "FIL"
  amount := 10
  chain := 56
  uid := "run"

def overThird : TradePath :=
  .via ⟨.pancake, .ofNat 81, .ofNat 1, .ofNat 3⟩ ⟨.pancake, .ofNat 82, .ofNat 3, .ofNat 2⟩
    rfl rfl

def direct : TradePath :=
  .direct ⟨.biswap, .ofNat 80, .ofNat 1, .ofNat 2⟩

def overFourth : TradePath :=
  .via ⟨.biswap, .ofNat 83, .ofNat 1, .ofNat 4⟩ ⟨.biswap, .ofNat 84, .ofNat 4, .ofNat 2⟩
    rfl rfl

def subCall (router : Nat) (path : TradePath) : SubCall :=
  ⟨.ofNat router, QuoteCall.ofPath path 10 .exactIn⟩

def plan : TradeRouter.Plan where
  paths := [overThird, direct, overFourth]
  subCalls := [subCall 101 overThird, subCall 103 direct, subCall 103 overFourth]

def priced (amounts : List Word) : SubResult :=
  ⟨true, encodeAmounts amounts⟩

def reverted : SubResult :=
  ⟨false, []⟩

def pools : List PoolEntry :=
  [pool .biswap 1 2 80, pool .pancake 1 3 81, pool .pancake 2 3 82, pool .pancake 3 1 85]

def answer (call : SubCall) : Option Bytes := do
  let (_, amount, tokens) ← QuoteCall.decode? call.data
  return encodeAmounts (tokens.zipIdx.map fun step => amount + BitVec.ofNat 256 (10 * step.2))

def result (call : SubCall) : SubResult :=
  ⟨(answer call).isSome, (answer call).getD []⟩

def payingMore : Chain :=
  { chain (.ok []) with
    call := fun t _ =>
      let calls := (t.payload?.bind BatchRead.decodeCalls?).getD []
      .ok (BatchRead.encodeResults (calls.map fun call => result ⟨call.1, call.2.2⟩)) }

/-- Every path has its price, and pays ten more at each hop. -/
def exchange : TradeRouter :=
  { market [] with source := PoolSource.fixed pools, chain := payingMore }

def through (first : Nat) : TradePath :=
  .via ⟨.pancake, .ofNat first, .ofNat 1, .ofNat 3⟩ ⟨.pancake, .ofNat 82, .ofNat 3, .ofNat 2⟩
    rfl rfl

def planThrough (first : Nat) : TradeRouter.Plan :=
  ⟨[through first, direct], [subCall 101 (through first), subCall 103 direct]⟩

def policy : ConfirmationPolicy :=
  ⟨1000, 3, 100⟩

def receipt (block : UInt64) : Receipt :=
  ⟨⟨1⟩, some block, true, 21000, 3, []⟩

/-- The transaction is mined, and then moves to a later block. -/
def reorganized : WaitScript where
  receipt
    | 0 => .ok none
    | 1 => .ok (some (receipt 10))
    | _ => .ok (some (receipt 12))
  head n := .ok (12 + 3 * UInt64.ofNat n)
  receiptLatency _ := 7
  headLatency _ := 2

def node (nonce : UInt64) : Chain where
  chainId := 56
  head _ := .ok 7
  call _ _ := .ok []
  estimateGas _ := .ok 21000
  pendingNonce _ := .ok nonce
  gasPrice := .ok 3
  broadcast _ := .ok ⟨1⟩
  receipt _ _ := .ok none

def executor : Executor where
  chainId := 56
  gasBuffer := 50000
  policy := ⟨1000, 3, 100⟩

def order : SendRequest where
  transaction := Transaction.call (.ofNat 101) [1, 2, 3, 4]
  method := "swap"
  func := "swapExactTokensForTokens"
  context := .null
  uid := "run"
  sender := .ofNat 5
  production := true
  waitConfirmation := false

end SwapDesk.Sample
