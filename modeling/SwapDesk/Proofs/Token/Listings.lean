import Mathlib.Data.List.Induction
import SwapDesk.Token.ListFile

namespace SwapDesk

namespace Listing

def isOf (chain : UInt64) (a : Address) (l : Listing) : Bool :=
  l.chain == chain && l.address == a

def isNamed (chain : UInt64) (symbol : String) (l : Listing) : Bool :=
  l.chain == chain && symbolKey l.symbol == symbolKey symbol

theorem isOf_iff {chain : UInt64} {a : Address} {l : Listing} :
    l.isOf chain a = true ↔ l.chain = chain ∧ l.address = a := by
  simp [isOf]

theorem isNamed_iff {chain : UInt64} {symbol : String} {l : Listing} :
    l.isNamed chain symbol = true ↔
      l.chain = chain ∧ symbolKey l.symbol = symbolKey symbol := by
  simp [isNamed]

def last? (p : Listing → Bool) (log : List Listing) : Option Listing :=
  (log.filter p).getLast?

theorem last?_concat (p : Listing → Bool) (log : List Listing) (l : Listing) :
    last? p (log ++ [l]) = if p l then some l else last? p log := by
  rw [last?, List.filter_append]
  cases satisfied : p l with
  | true => simp [satisfied]
  | false => simp [satisfied, last?]

theorem last?_eq_none_iff {p : Listing → Bool} {log : List Listing} :
    last? p log = none ↔ ∀ l ∈ log, p l = false := by
  simp [last?]

theorem mem_of_last? {p : Listing → Bool} {log : List Listing} {l : Listing}
    (last : last? p log = some l) : l ∈ log ∧ p l = true :=
  List.mem_filter.mp (List.mem_of_getLast? last)

end Listing

namespace TokenRegistry

open Listing

theorem byAddress?_insert (r : TokenRegistry) (l : Listing) (chain : UInt64) (a : Address) :
    (r.insert l).byAddress? chain a =
      if l.isOf chain a then some l.token else r.byAddress? chain a := by
  by_cases here : l.isOf chain a
  · obtain ⟨rfl, rfl⟩ := isOf_iff.mp here
    rw [if_pos here]
    simp [byAddress?, insert, Listing.token]
  · have elsewhere : (l.chain, l.address) ≠ (chain, a) := by
      intro same
      exact here (isOf_iff.mpr (Prod.ext_iff.mp same))
    rw [if_neg here]
    simp only [byAddress?, insert, Table.get?_put, if_neg elsewhere]

theorem addressOf?_insert (r : TokenRegistry) (l : Listing) (chain : UInt64) (symbol : String) :
    (r.insert l).addressOf? chain symbol =
      if l.isNamed chain symbol then some l.address else r.addressOf? chain symbol := by
  by_cases named : l.isNamed chain symbol
  · obtain ⟨sameChain, sameSymbol⟩ := isNamed_iff.mp named
    rw [if_pos named]
    simp [addressOf?, insert, sameChain, sameSymbol]
  · have other : (l.chain, symbolKey l.symbol) ≠ (chain, symbolKey symbol) := by
      intro same
      exact named (isNamed_iff.mpr (Prod.ext_iff.mp same))
    rw [if_neg named]
    simp only [addressOf?, insert, Table.get?_put, if_neg other]

theorem ofList_concat (log : List Listing) (l : Listing) :
    ofList (log ++ [l]) = (ofList log).insert l :=
  List.foldl_append

theorem byAddress?_ofList (log : List Listing) (chain : UInt64) (a : Address) :
    (ofList log).byAddress? chain a = (last? (isOf chain a) log).map Listing.token := by
  induction log using List.reverseRecOn with
  | nil => rfl
  | append_singleton log l ih =>
      rw [ofList_concat, byAddress?_insert, last?_concat, ih]
      split
      · rfl
      · rfl

theorem addressOf?_ofList (log : List Listing) (chain : UInt64) (symbol : String) :
    (ofList log).addressOf? chain symbol =
      (last? (isNamed chain symbol) log).map Listing.address := by
  induction log using List.reverseRecOn with
  | nil => rfl
  | append_singleton log l ih =>
      rw [ofList_concat, addressOf?_insert, last?_concat, ih]
      split
      · rfl
      · rfl

theorem exists_byAddress?_of_named {log : List Listing} {chain : UInt64} {symbol : String}
    {l : Listing} (last : last? (isNamed chain symbol) log = some l) :
    ∃ t, (ofList log).byAddress? chain l.address = some t := by
  obtain ⟨member, named⟩ := mem_of_last? last
  have listed : l.isOf chain l.address = true := isOf_iff.mpr ⟨(isNamed_iff.mp named).1, rfl⟩
  rw [byAddress?_ofList]
  cases found : last? (isOf chain l.address) log with
  | none => exact nomatch listed.symm.trans (last?_eq_none_iff.mp found l member)
  | some other => exact ⟨other.token, rfl⟩

theorem address_of_byAddress? {r : TokenRegistry} {chain : UInt64} {a : Address} {t : Token}
    (found : r.byAddress? chain a = some t) : t.address = a ∧ t.chain = chain := by
  obtain ⟨info, _, rfl⟩ := Option.map_eq_some_iff.mp found
  exact ⟨rfl, rfl⟩

theorem resolve?_of_address (r : TokenRegistry) {text : String} (chain : UInt64) {a : Address}
    (address : Address.ofText? (Text.trim text) = some a) :
    r.resolve? text chain = r.byAddress? chain a := by
  simp only [resolve?, address]

theorem resolve?_of_symbol (r : TokenRegistry) {text : String} (chain : UInt64)
    (symbol : Address.ofText? (Text.trim text) = none) :
    r.resolve? text chain =
      (r.addressOf? chain (Text.trim text)).bind (r.byAddress? chain) := by
  simp only [resolve?, symbol]

theorem exists_byAddress?_of_resolve? {r : TokenRegistry} {text : String} {chain : UInt64}
    {t : Token} (found : r.resolve? text chain = some t) :
    ∃ a, r.byAddress? chain a = some t := by
  cases address : Address.ofText? (Text.trim text) with
  | some a =>
      rw [resolve?_of_address r chain address] at found
      exact ⟨a, found⟩
  | none =>
      rw [resolve?_of_symbol r chain address] at found
      obtain ⟨a, _, found⟩ := Option.bind_eq_some_iff.mp found
      exact ⟨a, found⟩

theorem byAddress?_insert_of_ne (r : TokenRegistry) {l : Listing} {chain : UInt64}
    (elsewhere : l.chain ≠ chain) (a : Address) :
    (r.insert l).byAddress? chain a = r.byAddress? chain a := by
  rw [byAddress?_insert, if_neg]
  intro here
  exact elsewhere (isOf_iff.mp here).1

theorem resolve?_insert_of_ne (r : TokenRegistry) {l : Listing} {chain : UInt64}
    (elsewhere : l.chain ≠ chain) (text : String) :
    (r.insert l).resolve? text chain = r.resolve? text chain := by
  have sameTokens : (r.insert l).byAddress? chain = r.byAddress? chain :=
    funext (r.byAddress?_insert_of_ne elsewhere)
  have sameAddress : (r.insert l).addressOf? chain (Text.trim text) =
      r.addressOf? chain (Text.trim text) := by
    rw [addressOf?_insert, if_neg]
    intro named
    exact elsewhere (isNamed_iff.mp named).1
  simp only [resolve?, sameTokens, sameAddress]

/-- The registry answers from the log: the last listing of an address, and for a symbol the last
listing of the address that was listed last under it. -/
structure Answers (r : TokenRegistry) (log : List Listing) : Prop where
  byAddress : ∀ chain a, r.byAddress? chain a = (last? (isOf chain a) log).map Listing.token
  address : ∀ text chain a, Address.ofText? (Text.trim text) = some a →
    r.resolve? text chain = r.byAddress? chain a
  symbol : ∀ text chain l, Address.ofText? (Text.trim text) = none →
    last? (isNamed chain (Text.trim text)) log = some l →
    r.resolve? text chain = r.byAddress? chain l.address ∧ ∃ t, r.resolve? text chain = some t
  unlisted : ∀ text chain, Address.ofText? (Text.trim text) = none →
    last? (isNamed chain (Text.trim text)) log = none → r.resolve? text chain = none
  known : ∀ text chain t, r.resolve? text chain = some t →
    t.chain = chain ∧ r.byAddress? chain t.address = some t

theorem answers_ofList (log : List Listing) : (ofList log).Answers log where
  byAddress := byAddress?_ofList log
  address _ chain _ := resolve?_of_address _ chain
  symbol text chain l symbol last := by
    have leads : (ofList log).resolve? text chain = (ofList log).byAddress? chain l.address := by
      rw [resolve?_of_symbol _ chain symbol, addressOf?_ofList, last]
      rfl
    rw [leads]
    exact ⟨rfl, exists_byAddress?_of_named last⟩
  unlisted text chain symbol never := by
    rw [resolve?_of_symbol _ chain symbol, addressOf?_ofList, never]
    rfl
  known text chain t found := by
    obtain ⟨a, here⟩ := exists_byAddress?_of_resolve? found
    obtain ⟨rfl, sameChain⟩ := address_of_byAddress? here
    exact ⟨sameChain, here⟩

end TokenRegistry

namespace TokenList

def Entry.listing? (e : Entry) : String × String → Option Listing
  | (chain, address) =>
      (Text.readUInt64? chain).bind fun chain =>
        (Address.ofText? address).map fun a => ⟨chain, e.symbol, a, e.decimals⟩

def Entry.listings (e : Entry) : List Listing :=
  e.addresses.filterMap e.listing?

theorem Entry.insertInto_eq (e : Entry) (r : TokenRegistry) (pair : String × String) :
    e.insertInto r pair = ((e.listing? pair).map r.insert).getD r := by
  obtain ⟨chain, address⟩ := pair
  simp only [insertInto, listing?]
  cases Text.readUInt64? chain with
  | none => rfl
  | some chain =>
      cases Address.ofText? address with
      | none => rfl
      | some a => rfl

theorem Entry.foldl_insertInto (e : Entry) (r : TokenRegistry) :
    e.addresses.foldl e.insertInto r = e.listings.foldl TokenRegistry.insert r := by
  rw [listings, List.foldl_filterMap]
  congr 1
  funext r pair
  rw [e.insertInto_eq]
  cases e.listing? pair with
  | none => rfl
  | some l => rfl

theorem registry_eq_ofList (entries : List Entry) :
    registry entries = .ofList (entries.flatMap Entry.listings) := by
  rw [registry, TokenRegistry.ofList, List.foldl_flatMap]
  congr 1
  funext r e
  exact e.foldl_insertInto r

end TokenList

/-- After any insertions the registry answers from their log. An insertion on one chain changes no
answer for another, and a token list stands for the insertions of its well-formed addresses, in
their order. -/
theorem TokenRegistry.answers_of_insertions :
    (∀ log : List Listing, (ofList log).Answers log) ∧
    (∀ (r : TokenRegistry) (l : Listing) (chain : UInt64), l.chain ≠ chain →
      (∀ a, (r.insert l).byAddress? chain a = r.byAddress? chain a) ∧
      ∀ text, (r.insert l).resolve? text chain = r.resolve? text chain) ∧
    (∀ entries : List TokenList.Entry,
      TokenList.registry entries = ofList (entries.flatMap TokenList.Entry.listings)) ∧
    ∀ text : String, TokenList.read? text = (TokenList.entries? text).map fun entries =>
      ofList (entries.flatMap TokenList.Entry.listings) := by
  refine ⟨answers_ofList, ?_, TokenList.registry_eq_ofList, ?_⟩
  · intro r l chain elsewhere
    exact ⟨r.byAddress?_insert_of_ne elsewhere, r.resolve?_insert_of_ne elsewhere⟩
  · intro text
    rw [TokenList.read?, funext TokenList.registry_eq_ofList]

/-- The symbol leads to the address it was listed with last, which is another token by now. -/
example :
    (TokenRegistry.ofList [⟨56, "BTC", .ofNat 1, 18⟩, ⟨56, "btc", .ofNat 2, 8⟩,
      ⟨56, "FIL", .ofNat 2, 6⟩]).resolve? " Btc " 56 = some ⟨"FIL", .ofNat 2, 6, 56⟩ := by
  decide +kernel

end SwapDesk
