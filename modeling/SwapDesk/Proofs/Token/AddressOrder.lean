import SwapDesk.Proofs.Latest
import SwapDesk.Proofs.Token.Listings

/-!
Token lists and the order of their addresses. The addresses of an entry are a map, and are visited
in any order. What is known of an address is the same for every order. What a symbol leads to is not
if the last entry to list it on the chain does so at two addresses, under two spellings of the
chain's id.
-/

namespace SwapDesk

open Listing

theorem Listing.last?_append (p : Listing → Bool) (log more : List Listing) :
    last? p (log ++ more) = (last? p more).or (last? p log) := by
  rw [last?, List.filter_append, List.getLast?_append, last?, last?]

namespace TokenRegistry

structure AnswersAlike (r s : TokenRegistry) : Prop where
  byAddress : ∀ chain a, r.byAddress? chain a = s.byAddress? chain a
  resolve : ∀ text chain, r.resolve? text chain = s.resolve? text chain

theorem exists_resolve?_of_addressOf? {log : List Listing} {text : String} {chain : UInt64}
    {a : Address} (symbol : Address.ofText? (Text.trim text) = none)
    (leads : (ofList log).addressOf? chain (Text.trim text) = some a) :
    ∃ t, (ofList log).resolve? text chain = some t ∧ t.address = a := by
  rw [resolve?_of_symbol _ chain symbol, leads, Option.bind_some]
  rw [addressOf?_ofList] at leads
  obtain ⟨l, last, rfl⟩ := Option.map_eq_some_iff.mp leads
  obtain ⟨t, known⟩ := exists_byAddress?_of_named last
  exact ⟨t, known, (address_of_byAddress? known).1⟩

end TokenRegistry

namespace TokenList

def Entry.Reordered (e f : Entry) : Prop :=
  ∃ order : List (String × String), order.Perm e.addresses ∧ f = { e with addresses := order }

/-- A registry that the text may give. -/
def MayGive (text : String) (r : TokenRegistry) : Prop :=
  ∃ entries visited, entries? text = some entries ∧
    List.Forall₂ Entry.Reordered entries visited ∧ r = registry visited

def Entry.Lists (e : Entry) (chain : UInt64) (symbol : String) (a : Address) : Prop :=
  symbolKey e.symbol = symbolKey symbol ∧
    ∃ id text, (id, text) ∈ e.addresses ∧ Text.readUInt64? id = some chain ∧
      Address.ofText? text = some a

/-- The last entry to list the symbol on the chain lists it there at two addresses. -/
def Contested (chain : UInt64) (symbol : String) (entries : List Entry) : Prop :=
  ∃ before e after, entries = before ++ e :: after ∧
    (∃ a b, e.Lists chain symbol a ∧ e.Lists chain symbol b ∧ a ≠ b) ∧
    ∀ later ∈ after, ∀ a, ¬ later.Lists chain symbol a

def Entry.answer? {α : Type} (p : Listing → Bool) (f : Listing → α) (e : Entry)
    (pair : String × String) : Option α :=
  ((e.listing? pair).filter p).map f

def Entry.lastAnswer? {α : Type} (p : Listing → Bool) (f : Listing → α) (e : Entry) : Option α :=
  latest? (e.answer? p f) e.addresses

variable {α : Type} {p : Listing → Bool} {f : Listing → α} {e : Entry}
  {entries visited : List Entry} {chain : UInt64} {symbol : String} {a : Address}

theorem Entry.map_last?_listings (p : Listing → Bool) (f : Listing → α) (e : Entry) :
    (last? p e.listings).map f = e.lastAnswer? p f := by
  rw [last?, listings, List.filter_filterMap, ← List.getLast?_map, List.map_filterMap]
  rfl

theorem map_last?_flatMap_listings (p : Listing → Bool) (f : Listing → α) (entries : List Entry) :
    (last? p (entries.flatMap Entry.listings)).map f =
      latest? (Entry.lastAnswer? p f) entries := by
  induction entries with
  | nil => rfl
  | cons e entries ih =>
      rw [List.flatMap_cons, last?_append, Option.map_or, ih, e.map_last?_listings, latest?_cons]

theorem byAddress?_registry (entries : List Entry) (chain : UInt64) (a : Address) :
    (registry entries).byAddress? chain a =
      latest? (Entry.lastAnswer? (isOf chain a) Listing.token) entries := by
  rw [registry_eq_ofList, TokenRegistry.byAddress?_ofList, map_last?_flatMap_listings]

theorem addressOf?_registry (entries : List Entry) (chain : UInt64) (symbol : String) :
    (registry entries).addressOf? chain symbol =
      latest? (Entry.lastAnswer? (isNamed chain symbol) Listing.address) entries := by
  rw [registry_eq_ofList, TokenRegistry.addressOf?_ofList, map_last?_flatMap_listings]

theorem Entry.answer?_eq_some_iff {pair : String × String} {answer : α} :
    e.answer? p f pair = some answer ↔
      ∃ chain a, Text.readUInt64? pair.1 = some chain ∧ Address.ofText? pair.2 = some a ∧
        p ⟨chain, e.symbol, a, e.decimals⟩ = true ∧
        f ⟨chain, e.symbol, a, e.decimals⟩ = answer := by
  simp only [answer?, listing?, Option.map_eq_some_iff, Option.filter_eq_some_iff,
    Option.bind_eq_some_iff]
  constructor
  · intro answered
    obtain ⟨_, ⟨⟨chain, id, a, text, rfl⟩, asked⟩, answers⟩ := answered
    exact ⟨chain, a, id, text, asked, answers⟩
  · intro read
    obtain ⟨chain, a, id, text, asked, answers⟩ := read
    exact ⟨_, ⟨⟨chain, id, a, text, rfl⟩, asked⟩, answers⟩

theorem Entry.findsOne_token (e : Entry) (chain : UInt64) (a : Address) :
    FindsOne (e.answer? (isOf chain a) Listing.token) e.addresses := by
  have token : ∀ pair t, e.answer? (isOf chain a) Listing.token pair = some t →
      t = ⟨e.symbol, a, e.decimals, chain⟩ := by
    intro pair t answered
    obtain ⟨chain', a', _, _, asked, rfl⟩ := Entry.answer?_eq_some_iff.mp answered
    obtain ⟨rfl, rfl⟩ := isOf_iff.mp asked
    rfl
  intro pair _ pair' _ t t' answered answered'
  rw [token pair t answered, token pair' t' answered']

theorem Entry.lists_iff :
    e.Lists chain symbol a ↔
      ∃ pair ∈ e.addresses, e.answer? (isNamed chain symbol) Listing.address pair = some a := by
  constructor
  · intro lists
    obtain ⟨named, id, text, member, readId, readText⟩ := lists
    exact ⟨(id, text), member, Entry.answer?_eq_some_iff.mpr
      ⟨chain, a, readId, readText, isNamed_iff.mpr ⟨rfl, named⟩, rfl⟩⟩
  · intro answers
    obtain ⟨⟨id, text⟩, member, answered⟩ := answers
    obtain ⟨_, _, readId, readText, asked, rfl⟩ := Entry.answer?_eq_some_iff.mp answered
    obtain ⟨rfl, named⟩ := isNamed_iff.mp asked
    exact ⟨named, id, text, member, readId, readText⟩

theorem Entry.lastAddress?_eq_none_iff :
    e.lastAnswer? (isNamed chain symbol) Listing.address = none ↔
      ∀ a, ¬ e.Lists chain symbol a := by
  rw [lastAnswer?, latest?_eq_none_iff]
  constructor
  · intro nothing a lists
    obtain ⟨pair, member, answered⟩ := Entry.lists_iff.mp lists
    exact nomatch answered.symm.trans (nothing pair member)
  · intro never pair member
    cases answered : e.answer? (isNamed chain symbol) Listing.address pair with
    | none => rfl
    | some a => exact absurd (Entry.lists_iff.mpr ⟨pair, member, answered⟩) (never a)

theorem Entry.findsOne_address
    (one : ∀ a b, e.Lists chain symbol a → e.Lists chain symbol b → a = b) :
    FindsOne (e.answer? (isNamed chain symbol) Listing.address) e.addresses := by
  intro pair member pair' member' a b answered answered'
  exact one a b (Entry.lists_iff.mpr ⟨pair, member, answered⟩)
    (Entry.lists_iff.mpr ⟨pair', member', answered'⟩)

theorem Entry.reordered_self (e : Entry) : e.Reordered e :=
  ⟨e.addresses, .refl _, rfl⟩

theorem Entry.Reordered.lastAnswer?_eq {e' : Entry} (reordered : e.Reordered e')
    (one : FindsOne (e.answer? p f) e.addresses) : e'.lastAnswer? p f = e.lastAnswer? p f := by
  obtain ⟨order, perm, rfl⟩ := reordered
  exact latest?_perm one perm

theorem byAddress?_of_reordered (related : List.Forall₂ Entry.Reordered entries visited)
    (chain : UInt64) (a : Address) :
    (registry visited).byAddress? chain a = (registry entries).byAddress? chain a := by
  rw [byAddress?_registry, byAddress?_registry]
  symm
  apply latest?_forall₂ related
  intro e e' reordered
  exact (reordered.lastAnswer?_eq (e.findsOne_token chain a)).symm

theorem Contested.cons (contested : Contested chain symbol entries) (e : Entry) :
    Contested chain symbol (e :: entries) := by
  obtain ⟨before, e', after, rfl, twice, later⟩ := contested
  exact ⟨e :: before, e', after, rfl, twice, later⟩

theorem addressOf?_of_not_contested (related : List.Forall₂ Entry.Reordered entries visited)
    (settled : ¬ Contested chain symbol entries) :
    (registry visited).addressOf? chain symbol = (registry entries).addressOf? chain symbol := by
  rw [addressOf?_registry, addressOf?_registry]
  induction related with
  | nil => rfl
  | @cons e e' entries visited reordered _ ih =>
      have later := ih fun contested => settled (contested.cons e)
      rw [latest?_cons, latest?_cons, later]
      cases last : latest? (Entry.lastAnswer? (isNamed chain symbol) Listing.address) entries with
      | some a => rfl
      | none =>
          have silent : ∀ other ∈ entries, ∀ a, ¬ other.Lists chain symbol a := fun other member =>
            Entry.lastAddress?_eq_none_iff.mp (latest?_eq_none_iff.mp last other member)
          apply congrArg
          apply reordered.lastAnswer?_eq
          apply Entry.findsOne_address
          intro a b listsA listsB
          by_contra different
          exact settled ⟨[], e, entries, rfl, ⟨a, b, listsA, listsB, different⟩, silent⟩

theorem exists_reordered_addressOf? (before : List Entry) {after : List Entry}
    (lists : e.Lists chain symbol a) (later : ∀ other ∈ after, ∀ a, ¬ other.Lists chain symbol a) :
    ∃ visited, List.Forall₂ Entry.Reordered (before ++ e :: after) visited ∧
      (registry visited).addressOf? chain symbol = some a := by
  obtain ⟨pair, member, answered⟩ := Entry.lists_iff.mp lists
  obtain ⟨order, perm, last⟩ := exists_perm_latest? member answered
  have same : ∀ entries : List Entry, List.Forall₂ Entry.Reordered entries entries := fun _ =>
    List.forall₂_same.mpr fun e _ => e.reordered_self
  have silent : latest? (Entry.lastAnswer? (isNamed chain symbol) Listing.address) after = none :=
    latest?_eq_none_iff.mpr fun other member =>
      Entry.lastAddress?_eq_none_iff.mpr (later other member)
  have here : Entry.lastAnswer? (isNamed chain symbol) Listing.address
      { e with addresses := order } = some a := last
  refine ⟨before ++ { e with addresses := order } :: after, ?_, ?_⟩
  · exact List.rel_append (same before) (.cons ⟨order, perm, rfl⟩ (same after))
  · rw [addressOf?_registry, latest?_append, latest?_cons, silent, here]
    rfl

theorem mayGive_of_read? {text : String} {r : TokenRegistry} (read : read? text = some r) :
    MayGive text r := by
  obtain ⟨entries, readable, rfl⟩ := Option.map_eq_some_iff.mp read
  exact ⟨entries, entries, readable, List.forall₂_same.mpr fun e _ => e.reordered_self, rfl⟩

/-- The query asks for a symbol that is contested in the text. -/
def HangsOnOrder (text query : String) (chain : UInt64) : Prop :=
  ∃ entries, entries? text = some entries ∧ Address.ofText? (Text.trim query) = none ∧
    Contested chain (Text.trim query) entries

variable {text query : String}

theorem resolve?_of_not_hangsOnOrder (readable : entries? text = some entries)
    (related : List.Forall₂ Entry.Reordered entries visited)
    (settled : ¬ HangsOnOrder text query chain) :
    (registry visited).resolve? query chain = (registry entries).resolve? query chain := by
  have sameTokens : (registry visited).byAddress? chain = (registry entries).byAddress? chain :=
    funext (byAddress?_of_reordered related chain)
  cases symbol : Address.ofText? (Text.trim query) with
  | some a =>
      rw [TokenRegistry.resolve?_of_address _ chain symbol,
        TokenRegistry.resolve?_of_address _ chain symbol, sameTokens]
  | none =>
      have uncontested : ¬ Contested chain (Text.trim query) entries :=
        fun contested => settled ⟨entries, readable, symbol, contested⟩
      rw [TokenRegistry.resolve?_of_symbol _ chain symbol,
        TokenRegistry.resolve?_of_symbol _ chain symbol, sameTokens,
        addressOf?_of_not_contested related uncontested]

theorem exists_resolve?_of_lists {before after : List Entry}
    (readable : entries? text = some (before ++ e :: after))
    (symbol : Address.ofText? (Text.trim query) = none) (lists : e.Lists chain (Text.trim query) a)
    (later : ∀ other ∈ after, ∀ a, ¬ other.Lists chain (Text.trim query) a) :
    ∃ r t, MayGive text r ∧ r.resolve? query chain = some t ∧ t.address = a := by
  obtain ⟨visited, related, leads⟩ := exists_reordered_addressOf? before lists later
  rw [registry_eq_ofList] at leads
  obtain ⟨t, found, there⟩ := TokenRegistry.exists_resolve?_of_addressOf? symbol leads
  exact ⟨_, t, ⟨_, visited, readable, related, (registry_eq_ofList visited).symm⟩, found, there⟩

theorem resolve?_settled_iff :
    (∀ r s, MayGive text r → MayGive text s → r.resolve? query chain = s.resolve? query chain) ↔
      ¬ HangsOnOrder text query chain := by
  constructor
  · intro settled hangs
    obtain ⟨_, readable, symbol, before, e, after, rfl, twice, later⟩ := hangs
    obtain ⟨a, b, listsA, listsB, different⟩ := twice
    obtain ⟨r, t, gives, found, thereA⟩ := exists_resolve?_of_lists readable symbol listsA later
    obtain ⟨s, u, gives', found', thereB⟩ := exists_resolve?_of_lists readable symbol listsB later
    have same : some t = some u := found.symm.trans ((settled r s gives gives').trans found')
    cases same
    exact different (thereA.symm.trans thereB)
  · intro settled r s gives gives'
    obtain ⟨entries, visited, readable, related, rfl⟩ := gives
    obtain ⟨entries', visited', readable', related', rfl⟩ := gives'
    cases readable.symm.trans readable'
    rw [resolve?_of_not_hangsOnOrder readable related settled,
      resolve?_of_not_hangsOnOrder readable related' settled]

theorem byAddress?_settled {r s : TokenRegistry} (gives : MayGive text r) (gives' : MayGive text s)
    (chain : UInt64) (a : Address) : r.byAddress? chain a = s.byAddress? chain a := by
  obtain ⟨entries, visited, readable, related, rfl⟩ := gives
  obtain ⟨entries', visited', readable', related', rfl⟩ := gives'
  cases readable.symm.trans readable'
  rw [byAddress?_of_reordered related, byAddress?_of_reordered related']

/-- The registries that a text may give know the same addresses, and agree on a query exactly when
it does not hang on the order. -/
theorem answersAlike_iff_settled (text : String) :
    (∀ r s, MayGive text r → MayGive text s →
      ∀ chain a, r.byAddress? chain a = s.byAddress? chain a) ∧
    (∀ query chain,
      (∀ r s, MayGive text r → MayGive text s → r.resolve? query chain = s.resolve? query chain) ↔
        ¬ HangsOnOrder text query chain) ∧
    ((∀ r s, MayGive text r → MayGive text s → r.AnswersAlike s) ↔
      ∀ query chain, ¬ HangsOnOrder text query chain) := by
  refine ⟨fun _ _ => byAddress?_settled, fun _ _ => resolve?_settled_iff, ?_⟩
  constructor
  · intro alike query chain
    exact resolve?_settled_iff.mp fun r s gives gives' =>
      (alike r s gives gives').resolve query chain
  · intro settled r s gives gives'
    exact ⟨byAddress?_settled gives gives',
      fun query chain => resolve?_settled_iff.mpr (settled query chain) r s gives gives'⟩

end TokenList

namespace Sample

def twoSpellings : String :=
  "[[\"BTC\",18,\x7b\"56\":\"0x0000000000000000000000000000000000000001\",\"056\":\"0x0000000000000000000000000000000000000002\"\x7d]]"

def spelledOnce : String × String :=
  ("56", "0x0000000000000000000000000000000000000001")

def spelledLong : String × String :=
  ("056", "0x0000000000000000000000000000000000000002")

theorem entries?_twoSpellings :
    TokenList.entries? twoSpellings = some [⟨"BTC", 18, [spelledOnce, spelledLong]⟩] := by
  simp only [TokenList.entries?, Json.write?, twoSpellings]
  decide +kernel

end Sample

namespace TokenList

open Sample

theorem not_answersAlike_of_two_spellings :
    ∃ r s, MayGive twoSpellings r ∧ MayGive twoSpellings s ∧
      r.resolve? "BTC" 56 = some ⟨"BTC", .ofNat 1, 18, 56⟩ ∧
      s.resolve? "BTC" 56 = some ⟨"BTC", .ofNat 2, 18, 56⟩ ∧ ¬ r.AnswersAlike s := by
  have longFirst : MayGive twoSpellings (registry [⟨"BTC", 18, [spelledLong, spelledOnce]⟩]) :=
    ⟨_, _, entries?_twoSpellings, .cons ⟨_, .swap _ _ _, rfl⟩ .nil, rfl⟩
  have shortFirst : MayGive twoSpellings (registry [⟨"BTC", 18, [spelledOnce, spelledLong]⟩]) :=
    ⟨_, _, entries?_twoSpellings, .cons (Entry.reordered_self _) .nil, rfl⟩
  refine ⟨_, _, longFirst, shortFirst, by decide +kernel, by decide +kernel, ?_⟩
  intro alike
  exact absurd (alike.resolve "BTC" 56) (by decide +kernel)

end TokenList

end SwapDesk
