import SwapDesk.Route.Discovery
import SwapDesk.Route.Quote
import SwapDesk.Token.Registry

namespace SwapDesk

structure RouteRequest where
  tokenIn : String
  tokenOut : String
  /-- Base units of the input token, or of the output token when the output is given. -/
  amount : Word
  platform : Option Platform := none
  direction : Direction := .exactIn
  chain : UInt64
  uid : Uid
deriving DecidableEq

structure Priced where
  path : TradePath
  amountIn : Word
  amountOut : Word
deriving DecidableEq

namespace Priced

def cheaper (direction : Direction) (a b : Priced) : Bool :=
  match direction with
  | .exactIn => b.amountOut.toNat < a.amountOut.toNat
  | .exactOut => a.amountIn.toNat < b.amountIn.toNat

def better (direction : Direction) (a b : Priced) : Bool :=
  if cheaper direction a b then true
  else if cheaper direction b a then false
  else if a.path.length ≠ b.path.length then a.path.length < b.path.length
  else a.path.platform.priority < b.path.platform.priority

/-- The candidate to keep after meeting another; the earlier one stays unless it is beaten. -/
def keep (direction : Direction) (best : Option Priced) (next : Priced) : Option Priced :=
  match best with
  | none => some next
  | some current => if better direction next current then some next else some current

def best? (direction : Direction) (candidates : List Priced) : Option Priced :=
  candidates.foldl (keep direction) none

end Priced

structure TradeRouter where
  tokens : TokenRegistry
  source : PoolSource
  routers : Routers
  batch : Address
  chain : Chain

structure RouteRun where
  result : Except Failure Quote
  calls : List ChainCall

namespace TradeRouter

def resolve (r : TradeRouter) (symbol : String) (chain : UInt64) (uid : Uid) :
    Except Failure Token :=
  match r.tokens.resolve? symbol chain with
  | some token => .ok token
  | none => .error (.invalidToken uid symbol chain)

def noPath (req : RouteRequest) : Failure :=
  .noProfitablePath req.uid req.tokenIn req.tokenOut req.amount

/-- The platforms to search: the requested one, or all that have a router. -/
def platforms (r : TradeRouter) (req : RouteRequest) : Except Failure (List Platform) :=
  match req.platform with
  | none => .ok r.routers.platforms
  | some p =>
      match r.routers.get? p with
      | some _ => .ok [p]
      | none => .error (.unsupportedPlatform req.uid p.name req.chain)

def subCall (r : TradeRouter) (req : RouteRequest) (path : TradePath) : Except Failure SubCall :=
  match r.routers.get? path.platform with
  | some router => .ok ⟨router, QuoteCall.ofPath path req.amount req.direction⟩
  | none => .error (.unsupportedPlatform req.uid path.platform.name req.chain)

structure Plan where
  paths : List TradePath
  subCalls : List SubCall

def plan (r : TradeRouter) (req : RouteRequest) : Except Failure Plan := do
  let tokenIn ← r.resolve req.tokenIn req.chain req.uid
  let tokenOut ← r.resolve req.tokenOut req.chain req.uid
  if req.amount = 0 then .error (.amount (.notPositive req.uid))
  else if tokenIn.address = tokenOut.address then .error (noPath req)
  else do
    let platforms ← r.platforms req
    let found ← platforms.mapM fun p =>
      Discovery.candidates r.source tokenIn.address tokenOut.address p req.chain
    let paths := found.flatten
    if paths.isEmpty then .error (noPath req)
    else do
      let subCalls ← paths.mapM (r.subCall req)
      return ⟨paths, subCalls⟩

/-- How one answer counts: not at all, as a price, or as a reason to stop. -/
def appraise (path : TradePath) : Option Bytes → Except QuoteFault (Option Priced)
  | none => .ok none
  | some data =>
      match endAmounts path.platform path data with
      | .error .undecodable => .ok none
      | .error fault => .error fault
      | .ok (amountIn, amountOut) =>
          if amountIn = 0 ∨ amountOut = 0 then .ok none
          else .ok (some ⟨path, amountIn, amountOut⟩)

/-- The usable prices in candidate order; the first answer that cannot be compared stops it. -/
def appraiseAll : List TradePath → List (Option Bytes) → Except QuoteFault (List Priced)
  | path :: paths, answer :: answers => do
      let price ← appraise path answer
      let prices ← appraiseAll paths answers
      return price.toList ++ prices
  | _, _ => .ok []

def conclude (req : RouteRequest) (paths : List TradePath) (block : UInt64)
    (answers : List (Option Bytes)) : Except Failure Quote :=
  match appraiseAll paths answers with
  | .error fault => .error (.incomparableQuotes req.uid fault.message)
  | .ok prices =>
      match Priced.best? req.direction prices with
      | none => .error (noPath req)
      | some best => .ok ⟨best.path, best.amountIn, best.amountOut, block⟩

/-- The best path for a request, priced in a single batched read pinned to one block. -/
def route (r : TradeRouter) (req : RouteRequest) : RouteRun :=
  match r.plan req with
  | .error e => ⟨.error e, []⟩
  | .ok plan =>
      match r.chain.head 0 with
      | .error e => ⟨.error e, [.head]⟩
      | .ok block =>
          let read := BatchRead.run r.chain r.batch plan.subCalls block req.uid
          ⟨read.result.bind (conclude req plan.paths block), .head :: read.calls⟩

end TradeRouter

end SwapDesk
