import SwapDesk.Send.Confirmation
import SwapDesk.Settings.Basic

namespace SwapDesk.Settings

def minPollMs : Nat := 100

def pollInterval (s : Settings) : Nat :=
  max s.pollMs.toNat minPollMs

/-- A wait lasts for one poll at least. -/
def timeoutFor (s : Settings) (chain : UInt64) : Nat :=
  max ((TextMap.forChain? s.timeoutMsByChain chain).getD s.timeoutMs).toNat s.pollInterval

def blocksFor (s : Settings) (chain : UInt64) : UInt64 :=
  (TextMap.forChain? s.blocksByChain chain).getD s.blocks

def policyFor (s : Settings) (chain : UInt64) : ConfirmationPolicy :=
  ⟨s.timeoutFor chain, s.blocksFor chain, s.pollInterval⟩

def overlay (chain : UInt64) (routers : Routers) : TextMap String → Except Failure Routers
  | [] => .ok routers
  | (name, raw) :: rest =>
      match Platform.ofText name with
      | .error unknown => .error (.config (.unknownPlatform unknown))
      | .ok platform =>
          match Address.ofText? (Text.trim raw) with
          | none =>
              .error (.invalidAddress
                ("routers_by_chain:" ++ Text.decimal chain.toNat ++ ":" ++ name ++ " -> " ++ raw))
          | some router => overlay chain (routers.insert platform router) rest

def routersFor (s : Settings) (chain : UInt64) : Except Failure Routers :=
  overlay chain (.builtIn chain) ((TextMap.forChain? s.routers chain).getD [])

def batchFor (s : Settings) (chain : UInt64) : Except Failure Address :=
  match TextMap.forChain? s.batchContracts chain with
  | none => .ok batchContract
  | some raw =>
      match Address.ofText? (Text.trim raw) with
      | some contract => .ok contract
      | none =>
          .error (.invalidAddress
            ("multicall_by_chain:" ++ Text.decimal chain.toNat ++ " -> " ++ raw))

/-- The endpoint's URL: the configured one as it stands, else the environment's for this chain, else
the environment's for any chain. -/
def endpointFor (s : Settings) (env : Environment) (chain : UInt64) : Except Failure String :=
  match TextMap.forChain? s.endpoints chain with
  | some url => .ok url
  | none =>
      match (env.nonBlank? ("http_provider_" ++ Text.decimal chain.toNat)).or
          (env.nonBlank? "http_provider") with
      | some url => .ok url
      | none => .error (.config (.noEndpoint chain))

end SwapDesk.Settings
