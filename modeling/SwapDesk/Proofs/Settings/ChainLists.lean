import SwapDesk.Proofs.Checked
import SwapDesk.Proofs.Text.Numerals
import SwapDesk.Proofs.Text.Trimming
import SwapDesk.Proofs.Text.Words
import SwapDesk.Proofs.Token.Formatting
import SwapDesk.Settings.ChainList

namespace SwapDesk

namespace Text

/-! ## Words that are numerals -/

theorem eq_digitChar_of_digitValue? {c : Char} {n : ℕ} (digit : digitValue? c = some n) :
    ∃ d : Fin 10, c = digitChar d ∧ n = d := by
  unfold digitValue? at digit
  split at digit
  · rename_i range
    cases digit
    obtain ⟨low, high⟩ : 48 ≤ c.toNat ∧ c.toNat ≤ 57 := range
    refine ⟨⟨c.toNat - 48, by omega⟩, ?_, rfl⟩
    change c = Char.ofNat (48 + (c.toNat - 48))
    rw [Nat.add_sub_cancel' low, Char.ofNat_toNat]
  · contradiction

theorem digitsValueFrom?_digits (acc : ℕ) (ds : List (Fin 10)) :
    digitsValueFrom? acc (Units.digits ds) = some (acc * 10 ^ ds.length + Units.worth ds) := by
  induction ds generalizing acc with
  | nil => simp [digitsValueFrom?, Units.digits]
  | cons d ds ih =>
      rw [Units.digits_cons, digitsValueFrom?, digitValue?_digitChar d.isLt]
      simp only [ih, Units.worth_cons, List.length_cons, Nat.pow_succ]
      congr 1
      ring

theorem digits_of_digitsValueFrom? {acc n : ℕ} {cs : List Char}
    (read : digitsValueFrom? acc cs = some n) : ∃ ds, cs = Units.digits ds := by
  induction cs generalizing acc with
  | nil => exact ⟨[], rfl⟩
  | cons c cs ih =>
      rw [digitsValueFrom?] at read
      split at read
      · rename_i d digit
        obtain ⟨d, rfl, _⟩ := eq_digitChar_of_digitValue? digit
        obtain ⟨ds, rfl⟩ := ih read
        exact ⟨d :: ds, rfl⟩
      · contradiction

theorem digitsValue?_eq_some_iff {cs : List Char} {n : ℕ} :
    digitsValue? cs = some n ↔ ∃ ds, ds ≠ [] ∧ cs = Units.digits ds ∧ Units.worth ds = n := by
  constructor
  · intro read
    rw [digitsValue?] at read
    split at read
    · contradiction
    · rename_i nonempty
      obtain ⟨ds, rfl⟩ := digits_of_digitsValueFrom? read
      rw [digitsValueFrom?_digits, Nat.zero_mul, Nat.zero_add] at read
      refine ⟨ds, ?_, rfl, Option.some.inj read⟩
      intro none
      exact nonempty (by rw [none]; rfl)
  · rintro ⟨ds, nonempty, rfl, rfl⟩
    have written : (Units.digits ds).isEmpty = false := by simp [Units.digits, nonempty]
    rw [digitsValue?, written, if_neg Bool.false_ne_true, digitsValueFrom?_digits, Nat.zero_mul,
      Nat.zero_add]

theorem unsignedBelow?_eq_some_iff {limit n : ℕ} {cs : List Char} :
    unsignedBelow? limit cs = some n ↔
      n < limit ∧ ∃ ds, ds ≠ [] ∧ (cs = Units.digits ds ∨ cs = '+' :: Units.digits ds) ∧
        Units.worth ds = n := by
  unfold unsignedBelow?
  rw [Option.filter_eq_some_iff, decide_eq_true_eq, and_comm, digitsValue?_eq_some_iff]
  apply and_congr_right
  intro _
  apply exists_congr
  intro ds
  apply and_congr_right
  intro _
  apply and_congr_left
  intro _
  split
  · rename_i rest
    have signed : '+' :: rest ≠ Units.digits ds := by
      intro same
      exact Units.not_mem_digits (by simp) ds (same ▸ List.mem_cons_self)
    simp [signed]
  · rename_i unsigned
    have bare : cs ≠ '+' :: Units.digits ds := unsigned _
    simp [bare]

end Text

namespace ChainList

/-- The word is a decimal numeral for the id; it may have a plus sign and leading zeros. -/
def Names (word : List Char) (id : UInt64) : Prop :=
  ∃ ds, ds ≠ [] ∧ (word = Units.digits ds ∨ word = '+' :: Units.digits ds) ∧
    Units.worth ds = id.toNat

def Unquotes (text : String) (cs : List Char) : Prop :=
  ∃ opening closing, text.toList = opening ++ cs ++ closing ∧
    (∀ c ∈ opening, isQuote c = true) ∧ (∀ c ∈ closing, isQuote c = true) ∧
    (∀ c ∈ cs.head?, isQuote c = false) ∧ ∀ c ∈ cs.getLast?, isQuote c = false

/-- A list of ids written out. Each entry is an id with the separators before it, and only the first
may have none. -/
structure Layout where
  entries : List (List Char × UInt64)
  trailing : List Char
  opening : List Char
  closing : List Char
  separated : ∀ entry ∈ entries, ∀ c ∈ entry.1, separates c = true
  apart : ∀ entry ∈ entries.tail, entry.1 ≠ []
  trails : ∀ c ∈ trailing, separates c = true
  opens : ∀ c ∈ opening, isQuote c = true
  closes : ∀ c ∈ closing, isQuote c = true

namespace Layout

def ids (l : Layout) : List UInt64 :=
  l.entries.map Prod.snd

def listing (entries : List (List Char × UInt64)) : List Char :=
  entries.flatMap fun entry => entry.1 ++ Text.decimalDigits entry.2.toNat

def text (l : Layout) : String :=
  String.ofList (l.opening ++ (listing l.entries ++ l.trailing) ++ l.closing)

end Layout

/-! ## Words that name ids -/

theorem chainId_eq_ok_iff {word : List Char} {id : UInt64} :
    chainId word = .ok id ↔ Names word id := by
  have spelled : Text.unsignedBelow? UInt64.size word = some id.toNat ↔ Names word id := by
    rw [Text.unsignedBelow?_eq_some_iff]
    exact and_iff_right id.toNat_lt
  rw [← spelled, chainId]
  split
  · rename_i n read
    have small : n < UInt64.size := (Text.unsignedBelow?_eq_some_iff.mp read).1
    rw [read, Except.ok.injEq, Option.some.injEq]
    constructor
    · intro same
      rw [← same, UInt64.toNat_ofNat_of_lt' small]
    · intro same
      rw [same, UInt64.ofNat_toNat]
  · rename_i unread
    simp [unread]

theorem chainId_of_nameless {word : List Char} (nameless : ∀ id, ¬ Names word id) :
    chainId word = .error (.invalidChainId (String.ofList word)) := by
  cases read : chainId word with
  | ok id => exact absurd (chainId_eq_ok_iff.mp read) (nameless id)
  | error fault =>
      rw [chainId] at read
      split at read
      · contradiction
      · exact read.symm

theorem names_decimalDigits (id : UInt64) : Names (Text.decimalDigits id.toNat) id := by
  obtain ⟨ds, written, worth_ds⟩ := Units.exists_digits_decimalDigits id.toNat
  refine ⟨ds, ?_, .inl written, worth_ds⟩
  rintro rfl
  exact Text.decimalDigits_ne_nil id.toNat written

/-! ## The words of a text -/

theorem isQuote_of_separates {c : Char} (separator : separates c = true) : isQuote c = false := by
  by_contra quote
  rw [Bool.not_eq_false, isQuote, Bool.or_eq_true, Bool.or_eq_true, beq_iff_eq, beq_iff_eq,
    beq_iff_eq] at quote
  rcases quote with (rfl | rfl) | rfl <;> exact nomatch separator

theorem words_of_unquotes {text : String} {cs : List Char} (unquotes : Unquotes text cs) :
    words text = Text.runs separates cs := by
  obtain ⟨opening, closing, whole, opens, closes, first, last⟩ := unquotes
  rw [words, whole, Text.trimWhile_append_right closes, Text.trimWhile_append_left opens,
    Text.trimWhile_of_ends first last]

namespace Layout

theorem runs_listing (entries : List (List Char × UInt64)) (trailing : List Char)
    (separated : ∀ entry ∈ entries, ∀ c ∈ entry.1, separates c = true)
    (apart : ∀ entry ∈ entries.tail, entry.1 ≠ [])
    (trails : ∀ c ∈ trailing, separates c = true) :
    Text.runs separates (listing entries ++ trailing) =
      entries.map fun entry => Text.decimalDigits entry.2.toNat := by
  induction entries with
  | nil => exact Text.runs_of_separators trails
  | cons entry entries ih =>
      obtain ⟨here, others⟩ := List.forall_mem_cons.mp separated
      have unbroken : ∀ c ∈ Text.decimalDigits entry.2.toNat, separates c = false :=
        Text.forall_mem_decimalDigits (by decide) _
      have breaks : Text.Breaks separates (listing entries ++ trailing) := by
        intro c head
        cases entries with
        | nil => exact trails c (List.mem_of_mem_head? head)
        | cons next entries =>
            obtain ⟨d, gap, shape⟩ := List.exists_cons_of_ne_nil (apart next List.mem_cons_self)
            rw [listing, List.flatMap_cons, shape] at head
            have same : d = c := Option.some.inj head
            exact same ▸ others next List.mem_cons_self d (shape ▸ List.mem_cons_self)
      have rest := ih others fun later member => apart later (List.mem_of_mem_tail member)
      rw [listing, List.flatMap_cons, ← listing, List.append_assoc, List.append_assoc,
        Text.runs_append_left here,
        Text.runs_append_of_breaks (Text.decimalDigits_ne_nil _) unbroken breaks, rest,
        List.map_cons]

theorem isQuote_of_mem {l : Layout} {c : Char} (member : c ∈ listing l.entries ++ l.trailing) :
    isQuote c = false := by
  rcases List.mem_append.mp member with listed | trails
  · obtain ⟨entry, found, inEntry⟩ := List.mem_flatMap.mp listed
    rcases List.mem_append.mp inEntry with gap | digit
    · exact isQuote_of_separates (l.separated entry found c gap)
    · have unquoted : ∀ c ∈ Text.decimalDigits entry.2.toNat, isQuote c = false :=
        Text.forall_mem_decimalDigits (by decide) _
      exact unquoted c digit
  · exact isQuote_of_separates (l.trails c trails)

theorem unquotes (l : Layout) : Unquotes l.text (listing l.entries ++ l.trailing) := by
  refine ⟨l.opening, l.closing, String.toList_ofList, l.opens, l.closes, ?_, ?_⟩
  · intro c first
    exact isQuote_of_mem (List.mem_of_mem_head? first)
  · intro c last
    exact isQuote_of_mem (List.mem_of_mem_getLast? last)

theorem words_text (l : Layout) :
    words l.text = l.ids.map fun id => Text.decimalDigits id.toNat := by
  rw [words_of_unquotes l.unquotes,
    runs_listing l.entries l.trailing l.separated l.apart l.trails, ids, List.map_map]
  rfl

end Layout

/-! ## Reading -/

theorem read_of_words {text : String} (found : words text ≠ []) :
    read text = (words text).mapM chainId := by
  rw [read]
  split
  · contradiction
  · rfl

theorem read_eq_ok_iff {text : String} {ids : List UInt64} :
    read text = .ok ids ↔ ids ≠ [] ∧ List.Forall₂ Names (words text) ids := by
  have each : (words text).mapM chainId = .ok ids ↔ List.Forall₂ Names (words text) ids := by
    rw [Checked.mapM_eq_ok_iff]
    simp only [chainId_eq_ok_iff]
  by_cases found : words text = []
  · rw [read, found, List.forall₂_nil_left_iff]
    simp
  · rw [read_of_words found, each]
    constructor
    · intro named
      refine ⟨?_, named⟩
      rintro rfl
      exact found (List.forall₂_nil_right_iff.mp named)
    · exact And.right

theorem Layout.read_text {l : Layout} (nonempty : l.ids ≠ []) : read l.text = .ok l.ids := by
  apply read_eq_ok_iff.mpr
  refine ⟨nonempty, ?_⟩
  rw [l.words_text, List.forall₂_map_left_iff]
  exact List.forall₂_same.mpr fun id _ => names_decimalDigits id

theorem exists_nameless_of_read {text : String} {word : List Char} (member : word ∈ words text)
    (nameless : ∀ id, ¬ Names word id) :
    ∃ first ∈ words text, (∀ id, ¬ Names first id) ∧
      read text = .error (.invalidChainId (String.ofList first)) := by
  have found := List.ne_nil_of_mem member
  cases result : read text with
  | ok ids =>
      obtain ⟨_, named⟩ := read_eq_ok_iff.mp result
      obtain ⟨id, _, names⟩ := Checked.exists_of_mem_left named member
      exact absurd names (nameless id)
  | error fault =>
      rw [read_of_words found] at result
      obtain ⟨before, first, after, split, _, failed⟩ := Checked.mapM_eq_error_iff.mp result
      have unnamed : ∀ id, ¬ Names first id := by
        intro id names
        rw [chainId_eq_ok_iff.mpr names] at failed
        contradiction
      refine ⟨first, ?_, unnamed, ?_⟩
      · rw [split]
        exact List.mem_append_right _ List.mem_cons_self
      · rw [chainId_of_nameless unnamed] at failed
        rw [Except.error.inj failed]

/-- A list that is written out is read in full and in order. Whatever else is read, each word of it
names its id; and a word that names none spoils the whole. -/
theorem reads_back :
    (∀ l : Layout, l.ids ≠ [] → read l.text = .ok l.ids) ∧
    (∀ text ids, read text = .ok ids → ids ≠ [] ∧ List.Forall₂ Names (words text) ids) ∧
    ∀ text cs word, Unquotes text cs → Text.IsWord separates word cs →
      (∀ id, ¬ Names word id) →
      ∃ first, Text.IsWord separates first cs ∧ (∀ id, ¬ Names first id) ∧
        read text = .error (.invalidChainId (String.ofList first)) := by
  refine ⟨fun l => l.read_text, fun _ _ => read_eq_ok_iff.mp, ?_⟩
  intro text cs word unquotes isWord nameless
  have member : word ∈ words text := by
    rw [words_of_unquotes unquotes]
    exact Text.mem_runs_iff.mpr isWord
  obtain ⟨first, found, unnamed, failed⟩ := exists_nameless_of_read member nameless
  rw [words_of_unquotes unquotes] at found
  exact ⟨first, Text.mem_runs_iff.mp found, unnamed, failed⟩

end ChainList

namespace Sample

def quotedChains : ChainList.Layout where
  entries := [([' '], 1), ([',', '\n', ','], 18446744073709551615)]
  trailing := ['\u3000']
  opening := ['"', '\'']
  closing := ['\x60']
  separated := List.forall_mem_cons.mpr
    ⟨List.all_eq_true.mp rfl, List.forall_mem_singleton.mpr (List.all_eq_true.mp rfl)⟩
  apart := List.forall_mem_singleton.mpr (List.cons_ne_nil _ _)
  trails := List.all_eq_true.mp rfl
  opens := List.all_eq_true.mp rfl
  closes := List.all_eq_true.mp rfl

end Sample

namespace ChainList

theorem reads_back_quoted :
    read Sample.quotedChains.text = .ok [1, 18446744073709551615] ∧
    (∀ id, ¬ Names "-5".toList id) ∧ ∃ fault, read "'1,-5'" = .error fault := by
  obtain ⟨listed, _, spoiled⟩ := reads_back
  have nameless : ∀ id, ¬ Names "-5".toList id := by
    intro id names
    have read := chainId_eq_ok_iff.mpr names
    contradiction
  have unquotes : Unquotes "'1,-5'" "1,-5".toList := by
    refine ⟨['\''], ['\''], rfl, List.all_eq_true.mp rfl, List.all_eq_true.mp rfl, ?_, ?_⟩
    · intro c first
      cases first
      rfl
    · intro c last
      cases last
      rfl
  have isWord : Text.IsWord separates "-5".toList "1,-5".toList :=
    Text.isWord_of_mem_runs (by decide)
  obtain ⟨first, _, _, failed⟩ := spoiled _ _ _ unquotes isWord nameless
  exact ⟨listed Sample.quotedChains (by decide), nameless, _, failed⟩

end ChainList

end SwapDesk
