import SwapDesk.Platform

/-!
Everything that can go wrong, by cause. `Failure.message` is the only place where causes become
words; `Failure.kind` and `Failure.retrySafe` are what callers act on.
-/

namespace SwapDesk

abbrev Uid := String

/-- Stands for wording that depends on the file system, the transport or the text being read. -/
def unstated : String := "<detail>"

inductive ConfigFault where
  | stated (text : String)
  | unreadable
  | unknownPlatform (name : String)
  | unreadableTokens (path : String)
  | malformedTokens (path : String)
  | unreadablePools (path : String)
  | malformedPools (path : Option String)
  | unknownChain (chain : UInt64)
  | missingData (path : String)
  | noEndpoint (chain : UInt64)
  | invalidEndpoint
  | servesOtherChain (served expected : UInt64)
  | keyMissing
  | keyInvalid
  | keyMismatch (derived expected : Address)
  | keyNeededToBroadcast
  | keyNeededInProduction
  | invalidChainId (text : String)
  | emptyChainList
  | noChains
  | inField (fault : ConfigFault)
deriving DecidableEq

namespace ConfigFault

def announced (text : String) : String :=
  "Configuration error: " ++ text

def message : ConfigFault → String
  | stated text => text
  | unreadable => unstated
  | unknownPlatform name => "Unknown platform '" ++ name ++ "'"
  | unreadableTokens path => "Failed to read tokenlist " ++ path ++ ": " ++ unstated
  | malformedTokens path => "Invalid tokenlist JSON " ++ path ++ ": " ++ unstated
  | unreadablePools path => "Failed to read pools " ++ path ++ ": " ++ unstated
  | malformedPools none => "Invalid pools JSON: " ++ unstated
  | malformedPools (some path) => "Invalid pools JSON " ++ path ++ ": " ++ unstated
  | unknownChain chain => "Chain " ++ Text.decimal chain.toNat ++ " is not configured"
  | missingData path => "expected at " ++ path ++ "; set DATA_DIR"
  | noEndpoint chain => "No RPC URL found for chain " ++ Text.decimal chain.toNat
  | invalidEndpoint => "Invalid RPC URL: " ++ unstated
  | servesOtherChain served expected =>
      "RPC endpoint serves chain " ++ Text.decimal served.toNat ++ ", expected " ++
        Text.decimal expected.toNat
  | keyMissing => "WALLET_KEY is missing"
  | keyInvalid => "Invalid WALLET_KEY: " ++ unstated
  | keyMismatch derived expected =>
      "WALLET_KEY derives " ++ derived.text ++ ", but wallet_address is " ++ expected.text
  | keyNeededToBroadcast => "WALLET_KEY is required to broadcast"
  | keyNeededInProduction => "WALLET_KEY is required when transaction_prod_mode is enabled"
  | invalidChainId text => "Invalid chain id '" ++ text ++ "'"
  | emptyChainList => "CHAINS env is empty"
  | noChains => "No chains configured"
  | inField fault => announced fault.message

end ConfigFault

inductive AmountFault where
  | malformed (human symbol : String)
  | negative (human : String)
  | notPositive (uid : Uid)
  | stated (field message : String)
deriving DecidableEq

namespace AmountFault

def field : AmountFault → String
  | stated field _ => field
  | _ => "amount"

def message : AmountFault → String
  | malformed human symbol =>
      human ++ " is not a valid " ++ symbol ++ " amount: " ++ unstated
  | negative human => human ++ " is negative"
  | notPositive uid => "[" ++ uid ++ "] amount must be positive"
  | stated _ message => message

end AmountFault

inductive StoreFault where
  | outOfRange (field : String) (value : UInt64)
  | duplicateHash
  | unknownHash
  | stated (text : String)
deriving DecidableEq

namespace StoreFault

def message : StoreFault → String
  | outOfRange field value => field ++ " " ++ Text.decimal value.toNat ++ " exceeds INTEGER range"
  | duplicateHash => unstated
  | unknownHash => "no record for hash"
  | stated text => text

end StoreFault

inductive Failure where
  | config (fault : ConfigFault)
  | initialization (text : String)
  | connection (text : String)
  | invalidAddress (text : String)
  | amount (fault : AmountFault)
  | rpc (method text : String)
  | invalidToken (uid : Uid) (symbol : String) (chain : UInt64)
  | unsupportedPlatform (uid : Uid) (platform : String) (chain : UInt64)
  | noProfitablePath (uid : Uid) (tokenIn tokenOut : String) (amount : Word)
  | incomparableQuotes (uid : Uid) (reason : String)
  | gasEstimation (uid : Uid) (method func : String) (source : Failure)
  | send (uid : Uid) (method func : String) (source : Failure)
  | reverted (uid : Uid) (hash : Hash)
  | loggedError (uid : Uid) (hash : Hash)
  | confirmationTimeout (uid : Uid) (hash : Hash) (timeoutMs : Nat)
  | cancelled (uid : Uid) (hash : Hash)
  | multicall (uid : Uid) (reason : String)
  | persistence (uid : Uid) (hash : Hash) (fault : StoreFault)
  | unknown (text : String)
deriving DecidableEq

instance : Inhabited Failure := ⟨.unknown ""⟩

inductive FailureKind where
  | config
  | routing
  | execution
  | infra
deriving DecidableEq

def FailureKind.name : FailureKind → String
  | .config => "Config"
  | .routing => "Routing"
  | .execution => "Execution"
  | .infra => "Infra"

namespace Failure

def name : Failure → String
  | config _ => "Config"
  | initialization _ => "Initialization"
  | connection _ => "Connection"
  | invalidAddress _ => "InvalidAddress"
  | amount _ => "Validation"
  | rpc .. => "Rpc"
  | invalidToken .. => "InvalidToken"
  | unsupportedPlatform .. => "UnsupportedPlatform"
  | noProfitablePath .. => "NoProfitablePath"
  | incomparableQuotes .. => "IncomparableQuotes"
  | gasEstimation .. => "GasEstimation"
  | send .. => "Send"
  | reverted .. => "Reverted"
  | loggedError .. => "LoggedError"
  | confirmationTimeout .. => "ConfirmationTimeout"
  | cancelled .. => "Cancelled"
  | multicall .. => "Multicall"
  | persistence .. => "Persistence"
  | unknown _ => "Unknown"

def tagged (uid : Uid) (text : String) : String :=
  "[" ++ uid ++ "] " ++ text

def message : Failure → String
  | config fault => ConfigFault.announced fault.message
  | initialization text => "Initialization failed: " ++ text
  | connection text => "Connection failed to endpoint: " ++ text
  | invalidAddress text => "Address " ++ text ++ " is invalid or not checksummed"
  | amount fault => "Validation failed for field " ++ fault.field ++ ": " ++ fault.message
  | rpc method text => "RPC " ++ method ++ " failed: " ++ text
  | invalidToken uid symbol chain =>
      tagged uid ("invalid token " ++ symbol ++ " on chain " ++ Text.decimal chain.toNat)
  | unsupportedPlatform uid platform chain =>
      tagged uid ("platform " ++ platform ++ " is not configured on chain " ++
        Text.decimal chain.toNat)
  | noProfitablePath uid tokenIn tokenOut wanted =>
      tagged uid ("no profitable path " ++ tokenIn ++ " -> " ++ tokenOut ++ " for amount " ++
        Word.decimal wanted)
  | incomparableQuotes uid reason => tagged uid ("quotes cannot be compared: " ++ reason)
  | gasEstimation uid method func source =>
      tagged uid ("gas estimation failed for " ++ method ++ "." ++ func ++ ": " ++ source.message)
  | send uid method func source =>
      tagged uid ("send failed for " ++ method ++ "." ++ func ++ ": " ++ source.message)
  | reverted uid hash => tagged uid ("transaction reverted: " ++ hash.text)
  | loggedError uid hash =>
      tagged uid ("transaction " ++ hash.text ++ " succeeded but logged an error event")
  | confirmationTimeout uid hash timeoutMs =>
      tagged uid ("confirmation timeout after " ++ Text.decimal timeoutMs ++ "ms for " ++ hash.text)
  | cancelled uid hash => tagged uid ("confirmation wait cancelled for " ++ hash.text)
  | multicall uid reason => tagged uid ("multicall failed: " ++ reason)
  | persistence uid hash fault =>
      tagged uid ("failed to persist " ++ hash.text ++ ": " ++ fault.message)
  | unknown text => text

def kind : Failure → FailureKind
  | config _ | invalidAddress _ => .config
  | amount _ | invalidToken .. | unsupportedPlatform .. | noProfitablePath ..
  | incomparableQuotes .. => .routing
  | gasEstimation .. | send .. | reverted .. | loggedError .. | confirmationTimeout ..
  | cancelled .. => .execution
  | initialization _ | connection _ | rpc .. | multicall .. | persistence .. | unknown _ => .infra

/-- Whether the operation may be submitted again without looking at the chain. A transaction that
timed out may still land, so its nonce has to be read afresh. -/
def retrySafe : Failure → Bool
  | connection _ | rpc .. | confirmationTimeout .. | cancelled .. | multicall .. => true
  | send _ _ _ source => source.retrySafe
  | _ => false

def uid? : Failure → Option Uid
  | invalidToken uid .. | unsupportedPlatform uid .. | noProfitablePath uid ..
  | incomparableQuotes uid _ | gasEstimation uid .. | send uid .. | reverted uid _
  | loggedError uid _ | confirmationTimeout uid .. | cancelled uid _ | multicall uid _
  | persistence uid .. => some uid
  | _ => none

def hash? : Failure → Option Hash
  | reverted _ hash | loggedError _ hash | confirmationTimeout _ hash _ | cancelled _ hash
  | persistence _ hash _ => some hash
  | _ => none

def source? : Failure → Option Failure
  | gasEstimation _ _ _ source | send _ _ _ source => some source
  | _ => none

def sources : Failure → List Failure
  | gasEstimation _ _ _ source | send _ _ _ source => source :: source.sources
  | _ => []

end Failure

/-- Why a computation has no result: a failure that is reported, or a checked step outside its
range, which ends the program. -/
inductive Halt where
  | failed (failure : Failure)
  | crashed
deriving DecidableEq

end SwapDesk
