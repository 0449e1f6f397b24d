import Mathlib.Data.List.Induction
import Mathlib.Data.String.Basic
import Mathlib.Tactic.Choose
import Mathlib.Tactic.IntervalCases
import SwapDesk.Proofs.Json.Tokens

namespace SwapDesk.Json

/-- Numbers are integers of 64 bits, signed or not, objects are in order, and arrays and objects
nest at most `depth` deep. -/
inductive Plain : Nat → Json → Prop
  | null {depth : Nat} : Plain depth .null
  | bool {depth : Nat} (b : Bool) : Plain depth (.bool b)
  | int {depth : Nat} {n : Int} (least : -2 ^ 63 ≤ n) (below : n < 2 ^ 64) : Plain depth (.int n)
  | string {depth : Nat} (s : String) : Plain depth (.string s)
  | array {depth : Nat} {items : List Json} (each : ∀ x ∈ items, Plain depth x) :
      Plain (depth + 1) (.array items)
  | object {depth : Nat} {members : List (String × Json)}
      (ascending : (members.map Prod.fst).Pairwise (· < ·))
      (each : ∀ m ∈ members, Plain depth m.2) : Plain (depth + 1) (.object members)

/-! ## The text of a value -/

theorem skipGaps_cons {c : Char} (visible : isGap c = false) (rest : List Char) :
    skipGaps (c :: rest) = c :: rest := by
  rw [skipGaps, List.dropWhile_cons_of_neg (by simp [visible])]

inductive Starts : List Char → Prop
  | cons {c : Char} (visible : isGap c = false) (other : c ≠ ']') (rest : List Char) :
      Starts (c :: rest)

theorem Starts.append {cs : List Char} (starts : Starts cs) (rest : List Char) :
    Starts (cs ++ rest) := by
  cases starts with
  | cons visible other front => exact .cons visible other (front ++ rest)

theorem Starts.skipGaps_eq {cs : List Char} (starts : Starts cs) : skipGaps cs = cs := by
  cases starts with
  | cons visible other rest => exact skipGaps_cons visible rest

structure ReadsAs (cs : List Char) (w : Written) : Prop where
  starts : Starts cs
  read : ∀ {fuel : Nat} {rest : List Char}, cs.length ≤ fuel + 1 → Follows rest →
    written? (fuel + 1) (cs ++ rest) = some (w, rest)

namespace ReadsAs

variable {cs : List Char} {w : Written}

theorem written?_append (reads : ReadsAs cs w) {fuel : Nat} (enough : cs.length ≤ fuel)
    {rest : List Char} (follows : Follows rest) :
    written? fuel (cs ++ rest) = some (w, rest) := by
  cases fuel with
  | zero =>
      cases reads.starts
      exact nomatch enough
  | succ fuel => exact reads.read enough follows

theorem null : ReadsAs (chars .null) .null where
  starts := .cons rfl (by decide) _
  read _ _ := rfl

theorem bool (b : Bool) : ReadsAs (chars (.bool b)) (.bool b) := by
  cases b with
  | false => exact ⟨.cons rfl (by decide) _, fun _ _ => rfl⟩
  | true => exact ⟨.cons rfl (by decide) _, fun _ _ => rfl⟩

theorem string (s : String) : ReadsAs (stringChars s) (.string (some s)) where
  starts := .cons rfl (by decide) _
  read {fuel rest} _ _ := by
    have scanned := string?_stringChars s rest
    rw [stringChars, List.cons_append, List.append_assoc, List.singleton_append, written?,
      skipGaps_cons rfl]
    simp only [scanned, Option.map_some]

theorem negative (n : Nat) :
    ReadsAs ('-' :: Text.decimalDigits n) (.number ⟨true, Text.decimalDigits n, none, none⟩) where
  starts := .cons rfl (by decide) _
  read {fuel rest} _ follows := by
    rw [List.cons_append, written?, skipGaps_cons rfl]
    simp only [numeral?_decimalDigits true n follows, Option.map_some]

theorem nonnegative (n : Nat) :
    ReadsAs (Text.decimalDigits n) (.number ⟨false, Text.decimalDigits n, none, none⟩) := by
  have visible : ∀ d < 10, isGap (Text.digitChar d) = false ∧ Text.digitChar d ≠ ']' := by decide
  obtain ⟨c, ds, digits⟩ := List.exists_cons_of_ne_nil (Text.decimalDigits_ne_nil n)
  have member : c ∈ Text.decimalDigits n := digits ▸ List.mem_cons_self
  obtain ⟨d, small, rfl⟩ := Text.exists_of_mem_decimalDigits member
  obtain ⟨visible, other⟩ := visible d small
  refine ⟨digits ▸ .cons visible other ds, ?_⟩
  intro fuel rest _ follows
  have numeral := numeral?_decimalDigits false n follows
  rw [digits, List.cons_append] at numeral ⊢
  have branch : written? (fuel + 1) (Text.digitChar d :: (ds ++ rest)) =
      (numeral? false (Text.digitChar d :: (ds ++ rest))).map
        fun found => (.number found.1, found.2) := by
    interval_cases d <;> rfl
  rw [branch, numeral]
  rfl

theorem array_nil : ReadsAs (chars (.array [])) (.array []) where
  starts := .cons rfl (by decide) _
  read _ _ := rfl

theorem object_nil : ReadsAs (chars (.object [])) (.object []) where
  starts := .cons rfl (by decide) _
  read _ _ := rfl

end ReadsAs

/-! ## Arrays and objects -/

theorem starts_itemsChars {x : Json} (starts : Starts (chars x)) (items : List Json) :
    Starts (itemsChars (x :: items)) := by
  cases items with
  | nil => exact starts
  | cons y items => exact starts.append _

theorem items?_of_comma {fuel : Nat} {cs text : List Char} {first : Written}
    (read : written? fuel cs = some (first, ',' :: text)) (starts : Starts text) :
    items? (fuel + 1) cs = (items? fuel text).map fun (xs, rest) => (first :: xs, rest) := by
  have comma : skipGaps (',' :: text) = ',' :: text := rfl
  have seen := starts.skipGaps_eq
  cases starts with
  | cons visible other tail =>
      rw [items?, read]
      simp only [Option.bind_eq_bind, Option.bind_some, comma, seen]
      split
      · rename_i closing
        cases closing
        exact absurd rfl other
      · cases items? fuel _ <;> rfl

theorem items?_itemsChars {w : Json → Written} {items : List Json} (nonempty : items ≠ [])
    (reads : ∀ x ∈ items, ReadsAs (chars x) (w x)) {fuel : Nat}
    (enough : (itemsChars items).length < fuel) (rest : List Char) :
    items? fuel (itemsChars items ++ ']' :: rest) = some (items.map w, rest) := by
  induction items generalizing fuel with
  | nil => exact absurd rfl nonempty
  | cons x items ih =>
      obtain ⟨fuel, rfl⟩ : ∃ k, fuel = k + 1 := Nat.exists_eq_add_one_of_ne_zero (by omega)
      have first := reads x List.mem_cons_self
      cases items with
      | nil =>
          have read := first.written?_append (Nat.le_of_lt_succ enough) (.bracket rest)
          rw [itemsChars, items?, read]
          rfl
      | cons y items =>
          have others : ∀ z ∈ y :: items, ReadsAs (chars z) (w z) := fun z member =>
            reads z (List.mem_cons_of_mem x member)
          have starts := (starts_itemsChars (others y List.mem_cons_self).starts items).append
          rw [itemsChars, List.length_append, List.length_cons] at enough
          have room : (chars x).length ≤ fuel := by omega
          have roomLater : (itemsChars (y :: items)).length < fuel := by omega
          have later := ih (List.cons_ne_nil y items) others roomLater
          have read := first.written?_append room (.comma (itemsChars (y :: items) ++ ']' :: rest))
          rw [itemsChars, List.append_assoc, List.cons_append,
            items?_of_comma read (starts _), later]
          rfl

theorem members?_cons {fuel : Nat} {value : Json} {first : Written}
    (reads : ReadsAs (chars value) first) (enough : (chars value).length ≤ fuel) (key : String)
    (rest : List Char) :
    Follows rest → members? (fuel + 1) (stringChars key ++ ':' :: (chars value ++ rest)) =
      match rest with
      | ',' :: rest =>
          (members? fuel rest).map fun (ms, rest) => ((some key, first) :: ms, rest)
      | '}' :: rest => some ([(some key, first)], rest)
      | _ => none := by
  intro follows
  have quote : skipGaps (stringChars key ++ ':' :: (chars value ++ rest)) =
      '"' :: (key.toList.flatMap escapeChar ++ '"' :: ':' :: (chars value ++ rest)) := by
    simp only [stringChars, List.cons_append, List.append_assoc, List.nil_append]
    rfl
  have colon (text : List Char) : skipGaps (':' :: text) = ':' :: text := rfl
  have read := reads.written?_append enough follows
  rw [members?, quote]
  simp only [string?_stringChars, Option.bind_eq_bind, Option.bind_some, colon, read]
  cases follows with
  | nothing => rfl
  | comma text =>
      have comma : skipGaps (',' :: text) = ',' :: text := rfl
      simp only [comma]
      cases members? fuel text <;> rfl
  | bracket text => rfl
  | brace text => rfl

theorem members?_membersChars {w : String × Json → Written} {members : List (String × Json)}
    (nonempty : members ≠ []) (reads : ∀ m ∈ members, ReadsAs (chars m.2) (w m)) {fuel : Nat}
    (enough : (membersChars members).length < fuel) (rest : List Char) :
    members? fuel (membersChars members ++ '}' :: rest) =
      some (members.map fun m => (some m.1, w m), rest) := by
  induction members generalizing fuel with
  | nil => exact absurd rfl nonempty
  | cons m members ih =>
      obtain ⟨fuel, rfl⟩ : ∃ k, fuel = k + 1 := Nat.exists_eq_add_one_of_ne_zero (by omega)
      have first := reads m List.mem_cons_self
      cases members with
      | nil =>
          simp only [membersChars, List.length_append, List.length_cons] at enough
          rw [membersChars, List.append_assoc, List.cons_append,
            members?_cons first (by omega) m.1 _ (.brace rest)]
          rfl
      | cons m' members =>
          have others : ∀ m ∈ m' :: members, ReadsAs (chars m.2) (w m) := fun other member =>
            reads other (List.mem_cons_of_mem m member)
          simp only [membersChars, List.length_append, List.length_cons] at enough
          have room : (membersChars (m' :: members)).length < fuel := by omega
          have later := ih (List.cons_ne_nil m' members) others room
          rw [membersChars, List.append_assoc, List.cons_append, List.append_assoc,
            List.cons_append, members?_cons first (by omega) m.1 _ (.comma _)]
          change (members? fuel (membersChars (m' :: members) ++ '}' :: rest)).map _ = _
          rw [later]
          rfl

namespace ReadsAs

theorem array {w : Json → Written} {items : List Json}
    (reads : ∀ x ∈ items, ReadsAs (chars x) (w x)) :
    ReadsAs (chars (.array items)) (.array (items.map w)) := by
  cases items with
  | nil => exact array_nil
  | cons x items =>
      have starts := (starts_itemsChars (reads x List.mem_cons_self).starts items).append
      refine ⟨.cons rfl (by decide) _, ?_⟩
      intro fuel rest enough _
      simp only [chars, List.length_cons, List.length_append, List.length_nil] at enough
      have room : (itemsChars (x :: items)).length < fuel := by omega
      have read := items?_itemsChars (List.cons_ne_nil x items) reads room rest
      have starts := starts (']' :: rest)
      have seen := starts.skipGaps_eq
      rw [chars, List.cons_append, List.append_assoc, List.singleton_append, written?,
        skipGaps_cons rfl]
      simp only [seen]
      generalize itemsChars (x :: items) ++ ']' :: rest = text at read starts
      cases starts with
      | cons visible other tail =>
          split
          · rename_i closing
            cases closing
            exact absurd rfl other
          · rw [read]
            rfl

theorem object {w : String × Json → Written} {members : List (String × Json)}
    (reads : ∀ m ∈ members, ReadsAs (chars m.2) (w m)) :
    ReadsAs (chars (.object members)) (.object (members.map fun m => (some m.1, w m))) := by
  cases members with
  | nil => exact object_nil
  | cons m members =>
      refine ⟨.cons rfl (by decide) _, ?_⟩
      intro fuel rest enough _
      simp only [chars, List.length_cons, List.length_append, List.length_nil] at enough
      have room : (membersChars (m :: members)).length < fuel := by omega
      have read := members?_membersChars (List.cons_ne_nil m members) reads room rest
      obtain ⟨tail, quoted⟩ : ∃ tail, membersChars (m :: members) = '"' :: tail := by
        cases members <;> exact ⟨_, rfl⟩
      rw [chars, List.cons_append, List.append_assoc, List.singleton_append, written?,
        skipGaps_cons rfl]
      rw [quoted, List.cons_append] at read ⊢
      simp only [skipGaps_cons (c := '"') rfl]
      change (members? fuel ('"' :: (tail ++ '}' :: rest))).map _ = _
      rw [read]
      rfl

end ReadsAs

/-! ## Whole values -/

theorem insertMember_of_last {key : String} {value : Json} {members : List (String × Json)}
    (last : ∀ m ∈ members, m.1 < key) :
    insertMember key value members = members ++ [(key, value)] := by
  induction members with
  | nil => rfl
  | cons m members ih =>
      have before := last m List.mem_cons_self
      have others := ih fun other member => last other (List.mem_cons_of_mem m member)
      rw [insertMember, if_neg (lt_asymm before), if_neg (ne_of_lt before), others,
        List.cons_append]

theorem ofMembers_of_ascending {members : List (String × Json)}
    (ascending : (members.map Prod.fst).Pairwise (· < ·)) : ofMembers members = .object members := by
  rw [ofMembers]
  congr 1
  induction members using List.reverseRecOn with
  | nil => rfl
  | append_singleton members m ih =>
      rw [List.map_append, List.pairwise_append] at ascending
      obtain ⟨front, _, before⟩ := ascending
      rw [List.foldl_append, ih front]
      apply insertMember_of_last
      intro other member
      exact before other.1 (List.mem_map_of_mem member) m.1 (by simp)

theorem mapM_map_eq_some {α β : Type} {f : α → β} {g : β → Option α} {items : List α}
    (inverse : ∀ x ∈ items, g (f x) = some x) : (items.map f).mapM g = some items := by
  induction items with
  | nil => rfl
  | cons x items ih =>
      have first := inverse x List.mem_cons_self
      have others := ih fun y member => inverse y (List.mem_cons_of_mem x member)
      rw [List.map_cons, List.mapM_cons, first, others]
      rfl

/-- The text of a plain value is read as that value. -/
theorem Plain.exists_reads {depth : Nat} {j : Json} (plain : Plain depth j) :
    ∃ w, ReadsAs (chars j) w ∧ w.toJson? depth = some j := by
  induction plain with
  | null => exact ⟨.null, .null, by rw [Written.toJson?]⟩
  | bool b => exact ⟨.bool b, .bool b, by rw [Written.toJson?]⟩
  | @int depth n least below =>
      cases n with
      | ofNat n =>
          refine ⟨_, .nonnegative n, ?_⟩
          rw [Written.toJson?]
          apply toJson?_nonnegative
          rw [Int.ofNat_eq_natCast] at below
          omega
      | negSucc n =>
          refine ⟨_, .negative (n + 1), ?_⟩
          rw [Written.toJson?]
          apply toJson?_negative (Nat.succ_pos n)
          omega
  | string s => exact ⟨_, .string s, by rw [Written.toJson?]; rfl⟩
  | array each ih =>
      choose! w reads value using ih
      refine ⟨_, .array reads, ?_⟩
      rw [Written.toJson?, mapM_map_eq_some value]
      rfl
  | @object depth members ascending each ih =>
      choose! w reads value using ih
      refine ⟨_, .object reads, ?_⟩
      have named : ∀ m ∈ members, (do
          let key ← (some m.1 : Option String)
          let value ← (w m).toJson? depth
          return (key, value)) = some m := by
        intro m member
        rw [value m member]
        rfl
      rw [Written.toJson?, mapM_map_eq_some named]
      exact congrArg some (ofMembers_of_ascending ascending)

theorem parse?_render {j : Json} (plain : Plain nestingLimit j) :
    parse? j.render = some j := by
  obtain ⟨w, reads, value⟩ := plain.exists_reads
  have room : (chars j).length ≤ (chars j).length + 1 := Nat.le_succ _
  have read := reads.written?_append room .nothing
  rw [List.append_nil] at read
  rw [parse?, write?, render, String.toList_ofList]
  simp only [read, Option.bind_eq_bind, Option.bind_some]
  exact value

end SwapDesk.Json
