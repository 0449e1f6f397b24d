import SwapDesk.Table
import SwapDesk.Token.Basic
import SwapDesk.Json.Reader

/-!
The token registry: what is known of an address, and which address a symbol stands for. Both are
kept for every chain apart, and what is listed later takes the place of what was there.
-/

namespace SwapDesk

structure Listing where
  chain : UInt64
  symbol : String
  address : Address
  decimals : UInt8
deriving DecidableEq, Inhabited

def Listing.token (l : Listing) : Token :=
  ⟨l.symbol, l.address, l.decimals, l.chain⟩

/-- Symbols are compared without regard to ASCII letter case. -/
def symbolKey (s : String) : String :=
  Text.upperAscii s

structure TokenInfo where
  symbol : String
  decimals : UInt8
deriving DecidableEq, Inhabited

structure TokenRegistry where
  tokens : Table (UInt64 × Address) TokenInfo := []
  symbols : Table (UInt64 × String) Address := []
deriving Inhabited

namespace TokenRegistry

def empty : TokenRegistry := {}

def insert (r : TokenRegistry) (l : Listing) : TokenRegistry :=
  { tokens := r.tokens.put (l.chain, l.address) ⟨l.symbol, l.decimals⟩
    symbols := r.symbols.put (l.chain, symbolKey l.symbol) l.address }

def ofList (listings : List Listing) : TokenRegistry :=
  listings.foldl insert {}

def isEmpty (r : TokenRegistry) : Bool :=
  r.tokens.isEmpty

def byAddress? (r : TokenRegistry) (chain : UInt64) (a : Address) : Option Token :=
  (r.tokens.get? (chain, a)).map fun info => ⟨info.symbol, a, info.decimals, chain⟩

def addressOf? (r : TokenRegistry) (chain : UInt64) (symbol : String) : Option Address :=
  r.symbols.get? (chain, symbolKey symbol)

/-- Text that is an address names that address, and never a symbol. -/
def resolve? (r : TokenRegistry) (text : String) (chain : UInt64) : Option Token :=
  let name := Text.trim text
  match Address.ofText? name with
  | some a => r.byAddress? chain a
  | none => (r.addressOf? chain name).bind (r.byAddress? chain)

end TokenRegistry

namespace TokenList

/-- A token as a list file gives it: addresses by chain id, both still text. -/
structure Entry where
  symbol : String
  decimals : UInt8
  addresses : List (String × String)
deriving DecidableEq, Inhabited

/-- Takes an address of the entry in. A malformed chain id or address has no effect. -/
def Entry.insertInto (e : Entry) (r : TokenRegistry) : String × String → TokenRegistry
  | (chain, address) =>
      match Text.readUInt64? chain, Address.ofText? address with
      | some chain, some a => r.insert ⟨chain, e.symbol, a, e.decimals⟩
      | _, _ => r

def registry (entries : List Entry) : TokenRegistry :=
  entries.foldl (fun r e => e.addresses.foldl e.insertInto r) {}

end TokenList

end SwapDesk
