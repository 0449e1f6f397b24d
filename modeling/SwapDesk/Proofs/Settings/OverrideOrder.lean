import SwapDesk.Proofs.Latest
import SwapDesk.Settings.PerChain

/-!
Router overrides and their order. The overrides of a chain are a map from names of platforms, and
are visited in any order. Whether they can be read does not depend on that order. The router of a
platform does if two names of the platform are given two addresses.
-/

namespace SwapDesk.Settings

def overrides (s : Settings) (chain : UInt64) : TextMap String :=
  (TextMap.forChain? s.routers chain).getD []

/-- An outcome that the settings may have for a chain. -/
def MayRoute (s : Settings) (chain : UInt64) (outcome : Except Failure Routers) : Prop :=
  ∃ order : TextMap String, order.Perm (s.overrides chain) ∧
    outcome = overlay chain (.builtIn chain) order

def RoutesAlike (one other : Except Failure Routers) : Prop :=
  ((∃ e, one = .error e) ∧ ∃ e, other = .error e) ∨
    ∃ routers, one = .ok routers ∧ other = .ok routers

def Names (entry : String × String) (p : Platform) (a : Address) : Prop :=
  Platform.ofText entry.1 = .ok p ∧ Address.ofText? (Text.trim entry.2) = some a

def Malformed (s : Settings) (chain : UInt64) : Prop :=
  ∃ entry ∈ s.overrides chain, ∀ p a, ¬ Names entry p a

/-- All overrides of the platform name one router. -/
def Settled (s : Settings) (chain : UInt64) (p : Platform) : Prop :=
  ∀ entry ∈ s.overrides chain, ∀ entry' ∈ s.overrides chain,
    ∀ a b, Names entry p a → Names entry' p b → a = b

def override? (entry : String × String) : Option (Platform × Address) :=
  match Platform.ofText entry.1 with
  | .error _ => none
  | .ok p => (Address.ofText? (Text.trim entry.2)).map (p, ·)

def routerOf? (p : Platform) (entry : String × String) : Option Address :=
  ((override? entry).filter fun o => o.1 == p).map (·.2)

variable {s : Settings} {chain : UInt64} {routers result : Routers} {entry : String × String}
  {entries order : TextMap String} {p : Platform} {a : Address}

theorem override?_eq_some_iff : override? entry = some (p, a) ↔ Names entry p a := by
  unfold override? Names
  cases Platform.ofText entry.1 with
  | error unknown => simp
  | ok q =>
      cases Address.ofText? (Text.trim entry.2) with
      | none => simp
      | some b => simp

theorem override?_eq_none_iff : override? entry = none ↔ ∀ p a, ¬ Names entry p a := by
  rw [Option.eq_none_iff_forall_ne_some]
  simp only [Prod.forall, ne_eq, override?_eq_some_iff]

theorem routerOf?_eq_some_iff : routerOf? p entry = some a ↔ Names entry p a := by
  rw [routerOf?, Option.map_eq_some_iff]
  simp only [Option.filter_eq_some_iff, Prod.exists, beq_iff_eq, override?_eq_some_iff]
  constructor
  · intro found
    obtain ⟨_, _, ⟨names, rfl⟩, rfl⟩ := found
    exact names
  · intro names
    exact ⟨p, a, ⟨names, rfl⟩, rfl⟩

theorem routerOf?_of_some {q : Platform} (read : override? entry = some (q, a)) :
    routerOf? p entry = if p = q then some a else none := by
  rw [routerOf?, read]
  by_cases same : p = q
  · simp [same, Option.filter]
  · simp [same, Ne.symm same, Option.filter]

theorem overlay_nil : overlay chain routers [] = .ok routers := rfl

theorem overlay_cons_of_some (read : override? entry = some (p, a)) :
    overlay chain routers (entry :: entries) = overlay chain (routers.insert p a) entries := by
  obtain ⟨platform, router⟩ := override?_eq_some_iff.mp read
  conv_lhs => unfold overlay
  simp only [platform, router]

theorem exists_overlay_cons_eq_error (unread : override? entry = none) :
    ∃ e, overlay chain routers (entry :: entries) = .error e := by
  unfold override? at unread
  unfold overlay
  cases platform : Platform.ofText entry.1 with
  | error unknown => exact ⟨_, rfl⟩
  | ok q =>
      simp only [platform, Option.map_eq_none_iff] at unread
      simp only [unread]
      exact ⟨_, rfl⟩

theorem exists_overlay_eq_error_iff :
    (∃ e, overlay chain routers entries = .error e) ↔
      ∃ entry ∈ entries, override? entry = none := by
  induction entries generalizing routers with
  | nil => simp [overlay_nil]
  | cons entry entries ih =>
      cases read : override? entry with
      | none => simp [exists_overlay_cons_eq_error read, read]
      | some o =>
          obtain ⟨p, a⟩ := o
          rw [overlay_cons_of_some read, ih]
          simp [read]

theorem get?_of_overlay (done : overlay chain routers entries = .ok result) (p : Platform) :
    result.get? p = (latest? (routerOf? p) entries).or (routers.get? p) := by
  induction entries generalizing routers with
  | nil =>
      cases done
      rfl
  | cons entry entries ih =>
      cases read : override? entry with
      | none =>
          have fails : ∃ e, overlay chain routers (entry :: entries) = .error e :=
            exists_overlay_cons_eq_error read
          obtain ⟨e, failed⟩ := fails
          exact nomatch failed.symm.trans done
      | some o =>
          obtain ⟨q, a⟩ := o
          rw [overlay_cons_of_some read] at done
          rw [ih done, latest?_cons, Option.or_assoc, Routers.get?_insert]
          apply congrArg
          rw [routerOf?_of_some read]
          split
          · rfl
          · rfl

theorem mayRoute_routersFor (s : Settings) (chain : UInt64) :
    s.MayRoute chain (s.routersFor chain) :=
  ⟨s.overrides chain, .refl _, rfl⟩

theorem MayRoute.error_iff {outcome : Except Failure Routers} (may : s.MayRoute chain outcome) :
    (∃ e, outcome = .error e) ↔ s.Malformed chain := by
  obtain ⟨order, perm, rfl⟩ := may
  rw [exists_overlay_eq_error_iff]
  simp only [perm.mem_iff, override?_eq_none_iff]
  rfl

theorem MayRoute.exists_eq_ok {outcome : Except Failure Routers} (may : s.MayRoute chain outcome)
    (sound : ¬ s.Malformed chain) : ∃ routers, outcome = .ok routers := by
  cases outcome with
  | ok routers => exact ⟨routers, rfl⟩
  | error e => exact absurd (may.error_iff.mp ⟨e, rfl⟩) sound

theorem MayRoute.get?_eq (may : s.MayRoute chain (.ok routers)) :
    ∃ order : TextMap String, order.Perm (s.overrides chain) ∧
      ∀ p, routers.get? p = (latest? (routerOf? p) order).or ((Routers.builtIn chain).get? p) := by
  obtain ⟨order, perm, done⟩ := may
  exact ⟨order, perm, get?_of_overlay done.symm⟩

theorem settled_iff_findsOne : s.Settled chain p ↔ FindsOne (routerOf? p) (s.overrides chain) := by
  simp only [Settled, FindsOne, routerOf?_eq_some_iff]

theorem MayRoute.get?_of_settled {routers' : Routers} (settled : s.Settled chain p)
    (may : s.MayRoute chain (.ok routers)) (may' : s.MayRoute chain (.ok routers')) :
    routers.get? p = routers'.get? p := by
  have one := settled_iff_findsOne.mp settled
  obtain ⟨order, perm, reads⟩ := may.get?_eq
  obtain ⟨order', perm', reads'⟩ := may'.get?_eq
  rw [reads, reads', latest?_perm one perm, latest?_perm one perm']

theorem exists_mayRoute_of_names (sound : ¬ s.Malformed chain)
    (member : entry ∈ s.overrides chain) (names : Names entry p a) :
    ∃ routers, s.MayRoute chain (.ok routers) ∧ routers.get? p = some a := by
  obtain ⟨order, perm, last⟩ := exists_perm_latest? member (routerOf?_eq_some_iff.mpr names)
  have may : s.MayRoute chain (overlay chain (.builtIn chain) order) := ⟨order, perm, rfl⟩
  obtain ⟨routers, done⟩ := may.exists_eq_ok sound
  refine ⟨routers, ⟨order, perm, done.symm⟩, ?_⟩
  rw [get?_of_overlay done, last, Option.some_or]

theorem get?_settled_iff :
    (∀ routers routers', s.MayRoute chain (.ok routers) → s.MayRoute chain (.ok routers') →
      routers.get? p = routers'.get? p) ↔ s.Malformed chain ∨ s.Settled chain p := by
  constructor
  · intro same
    by_cases sound : s.Malformed chain
    · exact .inl sound
    · right
      intro entry member entry' member' a b names names'
      obtain ⟨routers, may, here⟩ := exists_mayRoute_of_names sound member names
      obtain ⟨routers', may', there⟩ := exists_mayRoute_of_names sound member' names'
      have equal := same routers routers' may may'
      rw [here, there] at equal
      exact Option.some.inj equal
  · intro order routers routers' may may'
    cases order with
    | inl malformed =>
        obtain ⟨e, failed⟩ := may.error_iff.mpr malformed
        exact nomatch failed
    | inr settled => exact MayRoute.get?_of_settled settled may may'

/-- Either no order of the overrides can be read, or every order can. Then a platform has the same
router for every order exactly when all its overrides name one. -/
theorem routesAlike_iff_settled (s : Settings) (chain : UInt64) :
    (∀ outcome, s.MayRoute chain outcome → ((∃ e, outcome = .error e) ↔ s.Malformed chain)) ∧
    (∀ p, (∀ routers routers', s.MayRoute chain (.ok routers) → s.MayRoute chain (.ok routers') →
      routers.get? p = routers'.get? p) ↔ s.Malformed chain ∨ s.Settled chain p) ∧
    ((∀ one other, s.MayRoute chain one → s.MayRoute chain other → RoutesAlike one other) ↔
      s.Malformed chain ∨ ∀ p, s.Settled chain p) := by
  refine ⟨fun _ may => may.error_iff, fun _ => get?_settled_iff, ?_⟩
  constructor
  · intro alike
    by_cases sound : s.Malformed chain
    · exact .inl sound
    · right
      intro p
      refine (get?_settled_iff.mp ?_).resolve_left sound
      intro routers routers' may may'
      rcases alike _ _ may may' with ⟨⟨_, failed⟩, _⟩ | ⟨_, here, there⟩
      · exact nomatch failed
      · cases here
        cases there
        rfl
  · intro order one other may may'
    by_cases malformed : s.Malformed chain
    · exact .inl ⟨may.error_iff.mpr malformed, may'.error_iff.mpr malformed⟩
    · have settled := order.resolve_left malformed
      obtain ⟨routers, rfl⟩ := may.exists_eq_ok malformed
      obtain ⟨routers', rfl⟩ := may'.exists_eq_ok malformed
      have same : routers = routers' := Routers.ext_get? fun p =>
        MayRoute.get?_of_settled (settled p) may may'
      exact .inr ⟨routers, rfl, congrArg _ same.symm⟩

end SwapDesk.Settings

namespace SwapDesk

namespace Sample

def byName : String × String :=
  ("pancake", "0x0000000000000000000000000000000000000001")

def byAlias : String × String :=
  ("PancakeSwap", "0x0000000000000000000000000000000000000002")

def twoNames : Settings where
  routers := some [("56", [byName, byAlias])]

theorem overrides_twoNames : twoNames.overrides 56 = [byName, byAlias] := by
  decide +kernel

theorem names_byName : Settings.Names byName .pancake (.ofNat 1) :=
  ⟨by decide +kernel, by decide +kernel⟩

theorem names_byAlias : Settings.Names byAlias .pancake (.ofNat 2) :=
  ⟨by decide +kernel, by decide +kernel⟩

theorem not_malformed_twoNames : ¬ twoNames.Malformed 56 := by
  intro malformed
  obtain ⟨entry, member, nothing⟩ := malformed
  rw [overrides_twoNames, List.mem_pair] at member
  rcases member with rfl | rfl
  · exact nothing _ _ names_byName
  · exact nothing _ _ names_byAlias

end Sample

namespace Settings

open Sample

theorem not_routesAlike_of_two_names :
    ∃ routers routers', twoNames.MayRoute 56 (.ok routers) ∧ twoNames.MayRoute 56 (.ok routers') ∧
      routers.get? .pancake = some (.ofNat 1) ∧ routers'.get? .pancake = some (.ofNat 2) ∧
      ¬ RoutesAlike (.ok routers) (.ok routers') := by
  have listed : byName ∈ twoNames.overrides 56 ∧ byAlias ∈ twoNames.overrides 56 := by
    rw [overrides_twoNames]
    exact ⟨List.mem_cons_self, List.mem_cons_of_mem _ List.mem_cons_self⟩
  obtain ⟨routers, may, one⟩ :=
    exists_mayRoute_of_names not_malformed_twoNames listed.1 names_byName
  obtain ⟨routers', may', two⟩ :=
    exists_mayRoute_of_names not_malformed_twoNames listed.2 names_byAlias
  refine ⟨routers, routers', may, may', one, two, ?_⟩
  intro alike
  rcases alike with ⟨⟨_, failed⟩, _⟩ | ⟨_, here, there⟩
  · exact nomatch failed
  · cases here
    cases there
    exact absurd (one.symm.trans two) (by decide +kernel)

end Settings

end SwapDesk
