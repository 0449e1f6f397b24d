import SwapDesk.Failure
import SwapDesk.Settings.Environment

namespace SwapDesk

/-- A map from text, in the order in which it is visited. -/
abbrev TextMap (α : Type) := List (String × α)

namespace TextMap

variable {α : Type}

def get? (m : TextMap α) (key : String) : Option α :=
  (m.find? fun e => e.1 == key).map (·.2)

def forChain? (m : Option (TextMap α)) (chain : UInt64) : Option α :=
  m.bind fun m => m.get? (Text.decimal chain.toNat)

end TextMap

structure Settings where
  debug : Bool := false
  logJson : Bool := false
  chains : List UInt64 := [homeChain]
  databaseUrl : Option String := none
  dataDirectory : Option String := none
  walletKey : Option String := none
  walletAddress : Option Address := none
  endpoints : Option (TextMap String) := none
  tokenListPath : Option String := none
  poolsPath : Option String := none
  routers : Option (TextMap (TextMap String)) := none
  batchContracts : Option (TextMap String) := none
  production : Bool := false
  waitConfirmation : Bool := true
  timeoutMs : UInt64 := 180000
  blocks : UInt64 := 3
  timeoutMsByChain : Option (TextMap UInt64) := none
  blocksByChain : Option (TextMap UInt64) := none
  pollMs : UInt64 := 3000
  gasBuffer : UInt64 := 50000
  slippageBps : UInt64 := 50
  swapDeadlineSecs : UInt64 := 1200
deriving DecidableEq, Inhabited

end SwapDesk
