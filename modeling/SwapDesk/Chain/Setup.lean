import SwapDesk.Chain.Registry
import SwapDesk.Endpoint.Client
import SwapDesk.Endpoint.Url
import SwapDesk.Settings.Paths
import SwapDesk.Settings.PerChain
import SwapDesk.Settings.Wallet

namespace SwapDesk

structure Surroundings where
  env : Environment
  tree : FileTree
  endpoint : String → Endpoint

structure ChainSetup where
  result : Except Failure (ChainContext × RpcClient)
  requests : List RpcRequest

namespace ChainSetup

/-- With a key set, even a blank one, there has to be a wallet. -/
def client (s : Settings) (around : Surroundings) (chain : UInt64) :
    Except Failure RpcClient := do
  let url ← s.endpointFor around.env chain
  let wallet ← match s.walletKey with
    | some _ => s.signer.map some
    | none => .ok none
  if Url.isValid url then .ok ⟨around.endpoint url, chain, wallet⟩
  else .error (.config .invalidEndpoint)

def context (s : Settings) (around : Surroundings) (chain : UInt64) (tokens : TokenRegistry)
    (token : CancelToken) : Except Failure ChainContext := do
  let routers ← s.routersFor chain
  let pools ← s.poolsFile around.env around.tree
  let batch ← s.batchFor chain
  return {
    chainId := chain
    clientChainId := chain
    tokens
    source := .file pools (around.tree.text? pools)
    routers
    batch
    policy := s.policyFor chain
    gasBuffer := s.gasBuffer
    token }

def run (s : Settings) (around : Surroundings) (chain : UInt64) (tokens : TokenRegistry)
    (token : CancelToken) : ChainSetup :=
  match client s around chain with
  | .error e => ⟨.error e, []⟩
  | .ok c =>
      let result := do
        c.verify chain
        let ctx ← context s around chain tokens token
        return (ctx, c)
      ⟨result, [.chainId]⟩

end ChainSetup

end SwapDesk
