import Mathlib.Data.List.Nodup
import SwapDesk.Proofs.Text.LetterCase
import SwapDesk.Proofs.Token.Listings

namespace SwapDesk

namespace Listing

def onChain (chain : UInt64) (log : List Listing) : List Listing :=
  log.filter fun l => l.chain == chain

theorem mem_onChain {chain : UInt64} {log : List Listing} {l : Listing} :
    l ∈ onChain chain log ↔ l ∈ log ∧ l.chain = chain := by
  simp [onChain]

def name (l : Listing) : String :=
  symbolKey (Text.trim l.symbol)

/-- The listings of a chain have symbols and addresses of their own. -/
structure ToldApart (chain : UInt64) (log : List Listing) : Prop where
  named : ∀ l ∈ onChain chain log, l.name ≠ ""
  names : ((onChain chain log).map name).Nodup
  addresses : ((onChain chain log).map address).Nodup

/-- The text is the symbol, its ASCII letters in any case and any blanks around it. -/
def AskedBy (l : Listing) (text : String) : Prop :=
  ∃ before symbol after : String, text = before ++ symbol ++ after ∧
    (∀ c ∈ before.toList, Text.isBlank c = true) ∧
    (∀ c ∈ after.toList, Text.isBlank c = true) ∧
    symbolKey symbol = l.name

variable {chain : UInt64} {log : List Listing} {l m : Listing} {text : String}

theorem trim_name (l : Listing) : Text.trim l.name = l.name := by
  rw [name, ← symbolKey_trim, Text.trim_trim]

theorem AskedBy.symbolKey_eq (asked : l.AskedBy text) : symbolKey (Text.trim text) = l.name := by
  obtain ⟨before, symbol, after, rfl, blankBefore, blankAfter, same⟩ := asked
  rw [Text.trim_append blankBefore blankAfter, symbolKey_trim, same, trim_name]

theorem AskedBy.ofText?_eq (asked : l.AskedBy text) :
    Address.ofText? (Text.trim text) = Address.ofText? (Text.trim l.symbol) :=
  Address.ofText?_of_symbolKey asked.symbolKey_eq

theorem last?_eq_some_of_unique {p : Listing → Bool} (member : l ∈ log) (satisfied : p l = true)
    (unique : ∀ m ∈ log, p m = true → m = l) : last? p log = some l := by
  cases found : last? p log with
  | none => exact nomatch satisfied.symm.trans (last?_eq_none_iff.mp found l member)
  | some m =>
      obtain ⟨here, also⟩ := mem_of_last? found
      rw [unique m here also]

theorem ToldApart.eq_of_isOf (apart : ToldApart chain log) (member : l ∈ onChain chain log)
    (other : m ∈ log) (sameAddress : m.isOf chain l.address = true) : m = l := by
  obtain ⟨here, same⟩ := isOf_iff.mp sameAddress
  exact List.inj_on_of_nodup_map apart.addresses (mem_onChain.mpr ⟨other, here⟩) member same

theorem ToldApart.eq_of_isNamed (apart : ToldApart chain log) (member : l ∈ onChain chain log)
    (other : m ∈ log) (sameSymbol : m.isNamed chain (Text.trim text) = true)
    (asked : l.AskedBy text) : m = l := by
  obtain ⟨here, same⟩ := isNamed_iff.mp sameSymbol
  have names : m.name = l.name := by
    rw [name, symbolKey_trim, same, asked.symbolKey_eq, trim_name]
  exact List.inj_on_of_nodup_map apart.names (mem_onChain.mpr ⟨other, here⟩) member names

theorem AskedBy.isNamed (asked : l.AskedBy text) (here : l.chain = chain)
    (trimmed : Text.trim l.symbol = l.symbol) : l.isNamed chain (Text.trim text) = true := by
  rw [isNamed_iff, asked.symbolKey_eq, name, trimmed]
  exact ⟨here, rfl⟩

end Listing

namespace TokenRegistry

open Listing

variable {chain : UInt64} {log : List Listing} {l : Listing} {text : String} {a : Address}

theorem byAddress?_of_toldApart (apart : ToldApart chain log) (member : l ∈ onChain chain log) :
    (ofList log).byAddress? chain l.address = some l.token := by
  obtain ⟨listed, here⟩ := mem_onChain.mp member
  have last : last? (isOf chain l.address) log = some l :=
    last?_eq_some_of_unique listed (isOf_iff.mpr ⟨here, rfl⟩) fun m other sameAddress =>
      apart.eq_of_isOf member other sameAddress
  rw [byAddress?_ofList, last]
  rfl

theorem resolve?_of_trimmed (apart : ToldApart chain log) (member : l ∈ onChain chain log)
    (asked : l.AskedBy text) (symbol : Address.ofText? (Text.trim l.symbol) = none)
    (trimmed : Text.trim l.symbol = l.symbol) :
    (ofList log).resolve? text chain = some l.token := by
  obtain ⟨listed, here⟩ := mem_onChain.mp member
  have last : last? (isNamed chain (Text.trim text)) log = some l :=
    last?_eq_some_of_unique listed (asked.isNamed here trimmed) fun m other sameSymbol =>
      apart.eq_of_isNamed member other sameSymbol asked
  have leads := ((answers_ofList log).symbol text chain l (asked.ofText?_eq.trans symbol) last).1
  rw [leads, byAddress?_of_toldApart apart member]

theorem resolve?_of_lookalike (apart : ToldApart chain log) (member : l ∈ onChain chain log)
    (asked : l.AskedBy text) (address : Address.ofText? (Text.trim l.symbol) = some a) :
    (ofList log).resolve? text chain = (ofList log).byAddress? chain a ∧
      ((ofList log).resolve? text chain = some l.token ↔ a = l.address) := by
  have leads := resolve?_of_address (ofList log) chain (asked.ofText?_eq.trans address)
  refine ⟨leads, ?_⟩
  rw [leads]
  constructor
  · intro found
    exact (address_of_byAddress? found).1.symm
  · intro own
    rw [own]
    exact byAddress?_of_toldApart apart member

/-- Of listings that are told apart, each is found by its symbol when that has no blanks around it
and is no address. When it is an address, the answer is what is listed at that address. -/
theorem found_by_symbol (apart : ToldApart chain log) (listed : l ∈ log) (here : l.chain = chain)
    (asked : l.AskedBy text) :
    (Address.ofText? (Text.trim l.symbol) = none → Text.trim l.symbol = l.symbol →
      (ofList log).resolve? text chain = some l.token) ∧
    ∀ a, Address.ofText? (Text.trim l.symbol) = some a →
      (ofList log).resolve? text chain = (ofList log).byAddress? chain a ∧
      ((ofList log).resolve? text chain = some l.token ↔ a = l.address) := by
  have member := mem_onChain.mpr ⟨listed, here⟩
  constructor
  · intro symbol trimmed
    exact resolve?_of_trimmed apart member asked symbol trimmed
  · intro a address
    exact resolve?_of_lookalike apart member asked address

end TokenRegistry

namespace Sample

def lookalikes : List Listing :=
  [⟨56, "Btc", .ofNat 1, 18⟩, ⟨56, "0x0000000000000000000000000000000000000001", .ofNat 2, 8⟩]

def padded : List Listing :=
  [⟨56, "Btc ", .ofNat 1, 18⟩]

theorem toldApart_lookalikes : Listing.ToldApart 56 lookalikes where
  named := by decide +kernel
  names := by decide +kernel
  addresses := by decide +kernel

theorem toldApart_padded : Listing.ToldApart 56 padded where
  named := by decide +kernel
  names := by decide +kernel
  addresses := by decide +kernel

end Sample

namespace TokenRegistry

open Listing Sample

theorem found_by_symbol_among_lookalikes :
    let l : Listing := ⟨56, "Btc", .ofNat 1, 18⟩
    let text := "\u00a0" ++ "bTC" ++ "\n"
    ToldApart 56 lookalikes ∧ l ∈ lookalikes ∧ l.AskedBy text ∧
      (ofList lookalikes).resolve? text 56 = some l.token := by
  intro l text
  have listed : l ∈ lookalikes := List.mem_cons_self
  have asked : l.AskedBy text := ⟨_, _, _, rfl, List.all_eq_true.mp (by decide),
    List.all_eq_true.mp (by decide), by decide +kernel⟩
  have found := found_by_symbol toldApart_lookalikes listed rfl asked
  exact ⟨toldApart_lookalikes, listed, asked, found.1 (by decide +kernel) (by decide +kernel)⟩

/-- The one symbol leads to the token at the address that it spells, the other nowhere. -/
theorem exists_not_found_by_symbol :
    (ToldApart 56 lookalikes ∧ ∃ l ∈ lookalikes, l.AskedBy l.symbol ∧
      (ofList lookalikes).resolve? l.symbol 56 = some ⟨"Btc", .ofNat 1, 18, 56⟩ ∧
      (ofList lookalikes).resolve? l.symbol 56 ≠ some l.token) ∧
    (ToldApart 56 padded ∧ ∃ l ∈ padded, l.AskedBy l.symbol ∧
      (ofList padded).resolve? l.symbol 56 = none) := by
  refine ⟨⟨toldApart_lookalikes, _, List.mem_cons_of_mem _ List.mem_cons_self, ?_, ?_, ?_⟩,
    toldApart_padded, _, List.mem_cons_self, ?_, ?_⟩
  · exact ⟨"", "0x0000000000000000000000000000000000000001", "", by decide +kernel,
      List.all_eq_true.mp rfl, List.all_eq_true.mp rfl, by decide +kernel⟩
  · decide +kernel
  · decide +kernel
  · exact ⟨"", "Btc", " ", by decide +kernel, List.all_eq_true.mp rfl,
      List.all_eq_true.mp (by decide), by decide +kernel⟩
  · decide +kernel

end TokenRegistry

end SwapDesk
