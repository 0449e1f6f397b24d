import SwapDesk.Route.Router
import SwapDesk.Send.Executor

/-!
The chains that are being worked on. Every context holds a token that, once cancelled, ends its
confirmation waits; tokens issued by the registry are also cancelled with the registry.
-/

namespace SwapDesk

/-- A token is a leaf under the registry's root, or stands alone. -/
structure CancelToken where
  id : Nat
  underRoot : Bool
deriving DecidableEq, Inhabited

structure Cancellations where
  root : Bool := false
  tokens : List CancelToken := []
deriving DecidableEq, Inhabited

namespace Cancellations

def holds (c : Cancellations) (t : CancelToken) : Bool :=
  (t.underRoot && c.root) || c.tokens.contains t

def cancel (c : Cancellations) (t : CancelToken) : Cancellations :=
  { c with tokens := t :: c.tokens }

def cancelRoot (c : Cancellations) : Cancellations :=
  { c with root := true }

end Cancellations

structure ChainContext where
  chainId : UInt64
  clientChainId : UInt64
  tokens : TokenRegistry
  source : PoolSource
  routers : Routers
  batch : Address
  policy : ConfirmationPolicy
  gasBuffer : UInt64
  token : CancelToken

namespace ChainContext

def router (ctx : ChainContext) (chain : Chain) : TradeRouter :=
  { tokens := ctx.tokens, source := ctx.source, routers := ctx.routers, batch := ctx.batch
    chain := chain }

def executor (ctx : ChainContext) : Executor :=
  { chainId := ctx.chainId, gasBuffer := ctx.gasBuffer, policy := ctx.policy }

end ChainContext

structure ChainRegistry where
  /-- By ascending chain id, one for each. -/
  contexts : List ChainContext := []
  cancelled : Cancellations := {}
  issued : Nat := 0
deriving Inhabited

namespace ChainRegistry

def put (ctx : ChainContext) : List ChainContext → List ChainContext
  | [] => [ctx]
  | c :: rest =>
      if ctx.chainId < c.chainId then ctx :: c :: rest
      else if ctx.chainId = c.chainId then ctx :: rest
      else c :: put ctx rest

def find? (r : ChainRegistry) (chain : UInt64) : Option ChainContext :=
  r.contexts.find? fun c => c.chainId == chain

def get (r : ChainRegistry) (chain : UInt64) : Except Failure ChainContext :=
  match r.find? chain with
  | some c => .ok c
  | none => .error (.config (.unknownChain chain))

def chainIds (r : ChainRegistry) : List UInt64 :=
  r.contexts.map ChainContext.chainId

def childToken (r : ChainRegistry) : CancelToken × ChainRegistry :=
  (⟨r.issued, true⟩, { r with issued := r.issued + 1 })

def ownToken (r : ChainRegistry) : CancelToken × ChainRegistry :=
  (⟨r.issued, false⟩, { r with issued := r.issued + 1 })

/-- Takes a context in; one that was there for its chain is shut down. -/
def insert (r : ChainRegistry) (ctx : ChainContext) : ChainRegistry :=
  let cancelled := match r.find? ctx.chainId with
    | some previous => r.cancelled.cancel previous.token
    | none => r.cancelled
  { r with contexts := put ctx r.contexts, cancelled := cancelled }

def isShutDown (r : ChainRegistry) (ctx : ChainContext) : Bool :=
  r.cancelled.holds ctx.token

def cancel (r : ChainRegistry) (t : CancelToken) : ChainRegistry :=
  { r with cancelled := r.cancelled.cancel t }

def shutDownContext (r : ChainRegistry) (chain : UInt64) : Except Failure ChainRegistry :=
  (r.get chain).map fun ctx => r.cancel ctx.token

def cancelHandle (r : ChainRegistry) : ChainRegistry :=
  { r with cancelled := r.cancelled.cancelRoot }

def shutDown (r : ChainRegistry) : ChainRegistry :=
  { r with
      contexts := []
      cancelled := r.contexts.foldl (fun c ctx => c.cancel ctx.token) r.cancelled.cancelRoot }

end ChainRegistry

end SwapDesk
