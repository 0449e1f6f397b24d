import SwapDesk.Json.Value
import SwapDesk.Settings.Basic

namespace SwapDesk

namespace TextMap

variable {α : Type}

def toJson (write : α → Json) (m : TextMap α) : Json :=
  .ofMembers (m.map fun e => (e.1, write e.2))

end TextMap

namespace Settings

def countJson (n : UInt64) : Json := .nat n.toNat

def addressJson (a : Address) : Json := .string a.text

def toJson (s : Settings) : Json :=
  .ofMembers
    [("debug", .bool s.debug),
     ("log_json", .bool s.logJson),
     ("chains", .array (s.chains.map countJson)),
     ("database_url", .optional .string s.databaseUrl),
     ("data_dir", .optional .string s.dataDirectory),
     ("wallet_key", .optional .string s.walletKey),
     ("wallet_address", .optional addressJson s.walletAddress),
     ("http_providers", .optional (TextMap.toJson .string) s.endpoints),
     ("tokenlist_path", .optional .string s.tokenListPath),
     ("pools_path", .optional .string s.poolsPath),
     ("routers_by_chain", .optional (TextMap.toJson (TextMap.toJson .string)) s.routers),
     ("multicall_by_chain", .optional (TextMap.toJson .string) s.batchContracts),
     ("transaction_prod_mode", .bool s.production),
     ("wait_confirmation", .bool s.waitConfirmation),
     ("tx_confirmation_timeout_ms", countJson s.timeoutMs),
     ("tx_confirmation_blocks", countJson s.blocks),
     ("tx_confirmation_timeout_ms_by_chain",
       .optional (TextMap.toJson countJson) s.timeoutMsByChain),
     ("tx_confirmation_blocks_by_chain", .optional (TextMap.toJson countJson) s.blocksByChain),
     ("receipt_poll_ms", countJson s.pollMs),
     ("gas_limit_buffer", countJson s.gasBuffer),
     ("slippage_bps", countJson s.slippageBps),
     ("swap_deadline_secs", countJson s.swapDeadlineSecs)]

end Settings

end SwapDesk
