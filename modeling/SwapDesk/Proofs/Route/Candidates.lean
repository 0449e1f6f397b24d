import Mathlib.Data.List.Nodup
import SwapDesk.Route.Discovery

namespace SwapDesk

theorem Pool.other?_eq_some_iff {p : Pool} {a mid : Address} (different : mid ≠ a) :
    p.other? a = some mid ↔ p.connects a mid = true := by
  constructor
  · exact Pool.connects_of_other?
  · intro joins
    unfold other?
    simp only [connects, Bool.or_eq_true, Bool.and_eq_true, beq_iff_eq] at joins
    rcases joins with ⟨rfl, rfl⟩ | ⟨rfl, rfl⟩
    · simp
    · simp [different]

theorem Pool.connects_eq_contains {p : Pool} {a mid : Address} (different : mid ≠ a) :
    p.connects a mid = (p.contains a && p.contains mid) := by
  rw [Bool.eq_iff_iff]
  simp only [connects, contains, Bool.or_eq_true, Bool.and_eq_true, beq_iff_eq]
  constructor
  · rintro (⟨rfl, rfl⟩ | ⟨rfl, rfl⟩) <;> simp
  · rintro ⟨rfl | rfl, rfl | rfl⟩ <;> simp_all

theorem Pool.not_isSelfPair_of_connects {p : Pool} {a b : Address} (distinct : a ≠ b)
    (joins : p.connects a b = true) : p.isSelfPair = false := by
  simp only [connects, Bool.or_eq_true, Bool.and_eq_true, beq_iff_eq] at joins
  rcases joins with ⟨rfl, rfl⟩ | ⟨rfl, rfl⟩
  · simp [isSelfPair, distinct]
  · simp [isSelfPair, distinct.symm]

theorem TradePath.firstHop_mem_hops (path : TradePath) : path.firstHop ∈ path.hops := by
  cases path <;> simp [firstHop, hops]

namespace Discovery

variable {pools firsts rest : List Pool} {a b mid : Address} {seen : List Address} {p : Pool}

theorem direct?_cons_of_connects (joins : p.connects a b = true) :
    direct? (p :: rest) a b = some p := by
  simp [direct?, joins]

theorem direct?_cons_of_not_connects (apart : ¬ p.connects a b = true) :
    direct? (p :: rest) a b = direct? rest a b := by
  simp [direct?, apart]

theorem direct?_isSome_iff :
    (direct? pools a b).isSome ↔ ∃ p ∈ pools, p.connects a b = true := by
  simp [direct?]

theorem direct?_eq_some (found : direct? pools a b = some p) :
    p ∈ pools ∧ p.connects a b = true := by
  unfold direct? at found
  have joins := List.find?_some found
  exact ⟨List.mem_of_find?_eq_some found, joins⟩

/-! ## Pool pairs -/

/-- The token can be a middle token: it is neither end and has not been met. -/
structure Fresh (a b : Address) (seen : List Address) (mid : Address) : Prop where
  notStart : mid ≠ a
  notEnd : mid ≠ b
  unseen : mid ∉ seen

theorem fresh_cons_iff {other : Address} :
    Fresh a b (other :: seen) mid ↔ Fresh a b seen mid ∧ mid ≠ other := by
  constructor
  · rintro ⟨notStart, notEnd, unseen⟩
    rw [List.mem_cons, not_or] at unseen
    exact ⟨⟨notStart, notEnd, unseen.2⟩, unseen.1⟩
  · rintro ⟨⟨notStart, notEnd, unseen⟩, different⟩
    exact ⟨notStart, notEnd, by simp [unseen, different]⟩

theorem pairsFrom_of_apart
    (apart : ∀ mid, Fresh a b seen mid → ¬ p.connects a mid = true) :
    pairsFrom pools a b seen (p :: rest) = pairsFrom pools a b seen rest := by
  rw [pairsFrom]
  split
  · rfl
  · rename_i mid across
    refine if_pos ?_
    by_contra fresh
    simp only [not_or] at fresh
    exact apart mid ⟨fresh.2.1, fresh.1, fresh.2.2⟩ (Pool.connects_of_other? across)

theorem pairsFrom_of_connects (fresh : Fresh a b seen mid) (joins : p.connects a mid = true) :
    pairsFrom pools a b seen (p :: rest) =
      ((direct? pools mid b).map fun second => (p, second)).toList ++
        pairsFrom pools a b (mid :: seen) rest := by
  have across := (Pool.other?_eq_some_iff fresh.notStart).mpr joins
  simp only [pairsFrom, across, fresh.notStart, fresh.notEnd, fresh.unseen, or_self, if_false]
  cases direct? pools mid b <;> rfl

theorem eq_of_connects {mid' : Address} (different : mid ≠ a) (different' : mid' ≠ a)
    (joins : p.connects a mid = true) (joins' : p.connects a mid' = true) : mid = mid' := by
  have across := (Pool.other?_eq_some_iff different).mpr joins
  have across' := (Pool.other?_eq_some_iff different').mpr joins'
  exact Option.some.inj (across.symm.trans across')

/-- Which pool pairs are found: for each token that is not an end and has not been seen, the first
pool that joins it to the one end and the first that joins it to the other. -/
theorem mem_pairsFrom_iff {first second : Pool} :
    (first, second) ∈ pairsFrom pools a b seen firsts ↔
      ∃ mid, Fresh a b seen mid ∧ direct? firsts a mid = some first ∧
        direct? pools mid b = some second := by
  induction firsts generalizing seen with
  | nil => simp [pairsFrom, direct?]
  | cons p rest ih =>
      by_cases met : ∃ mid, Fresh a b seen mid ∧ p.connects a mid = true
      · obtain ⟨met, fresh, joins⟩ := met
        rw [pairsFrom_of_connects fresh joins, List.mem_append, ih]
        constructor
        · rintro (here | ⟨mid, later, found, last⟩)
          · simp only [Option.mem_toList, Option.map_eq_some_iff, Prod.mk.injEq] at here
            obtain ⟨second', last, rfl, rfl⟩ := here
            exact ⟨met, fresh, direct?_cons_of_connects joins, last⟩
          · obtain ⟨fresh', different⟩ := fresh_cons_iff.mp later
            have apart : ¬ p.connects a mid = true := fun joins' =>
              different (eq_of_connects fresh'.notStart fresh.notStart joins' joins)
            exact ⟨mid, fresh', (direct?_cons_of_not_connects apart).trans found, last⟩
        · rintro ⟨mid, fresh', found, last⟩
          by_cases same : mid = met
          · subst same
            rw [direct?_cons_of_connects joins] at found
            cases found
            exact .inl (by simp [last])
          · have apart : ¬ p.connects a mid = true := fun joins' =>
              same (eq_of_connects fresh'.notStart fresh.notStart joins' joins)
            rw [direct?_cons_of_not_connects apart] at found
            exact .inr ⟨mid, fresh_cons_iff.mpr ⟨fresh', same⟩, found, last⟩
      · have apart : ∀ mid, Fresh a b seen mid → ¬ p.connects a mid = true :=
          fun mid fresh joins => met ⟨mid, fresh, joins⟩
        rw [pairsFrom_of_apart apart, ih]
        refine exists_congr fun mid => and_congr_right fun fresh => ?_
        rw [direct?_cons_of_not_connects (apart mid fresh)]

/-! ## Middle tokens -/

def middlesFrom (pools : List Pool) (a b : Address) (seen : List Address) (firsts : List Pool) :
    List Address :=
  (pairsFrom pools a b seen firsts).filterMap fun pair => pair.1.other? a

theorem middlesFrom_of_connects (fresh : Fresh a b seen mid)
    (joins : p.connects a mid = true) :
    middlesFrom pools a b seen (p :: rest) =
      (if (direct? pools mid b).isSome then [mid] else []) ++
        middlesFrom pools a b (mid :: seen) rest := by
  have across := (Pool.other?_eq_some_iff fresh.notStart).mpr joins
  rw [middlesFrom, pairsFrom_of_connects fresh joins, List.filterMap_append]
  cases direct? pools mid b with
  | none => rfl
  | some second => simp [across, middlesFrom]

theorem mem_middlesFrom_iff :
    mid ∈ middlesFrom pools a b seen firsts ↔
      Fresh a b seen mid ∧ (∃ p ∈ firsts, p.connects a mid = true) ∧
        ∃ p ∈ pools, p.connects mid b = true := by
  simp only [middlesFrom, List.mem_filterMap, Prod.exists, mem_pairsFrom_iff,
    ← direct?_isSome_iff, Option.isSome_iff_exists]
  constructor
  · rintro ⟨first, second, ⟨mid', fresh, found, last⟩, across⟩
    have joins := (direct?_eq_some found).2
    have across' := (Pool.other?_eq_some_iff fresh.notStart).mpr joins
    cases across'.symm.trans across
    exact ⟨fresh, ⟨first, found⟩, ⟨second, last⟩⟩
  · rintro ⟨fresh, ⟨first, found⟩, ⟨second, last⟩⟩
    have joins := (direct?_eq_some found).2
    exact ⟨first, second, ⟨mid, fresh, found, last⟩,
      (Pool.other?_eq_some_iff fresh.notStart).mpr joins⟩

def firstSeen (pools : List Pool) (a token : Address) : Nat :=
  pools.findIdx fun p => p.contains a && p.contains token

theorem firstSeen_cons_of_connects (different : mid ≠ a) (joins : p.connects a mid = true) :
    firstSeen (p :: rest) a mid = 0 := by
  rw [Pool.connects_eq_contains different] at joins
  simp [firstSeen, List.findIdx_cons, joins]

theorem firstSeen_cons_of_not_connects (different : mid ≠ a)
    (apart : ¬ p.connects a mid = true) :
    firstSeen (p :: rest) a mid = firstSeen rest a mid + 1 := by
  rw [Pool.connects_eq_contains different, Bool.not_eq_true] at apart
  simp [firstSeen, List.findIdx_cons, apart]

theorem pairwise_middlesFrom :
    (middlesFrom pools a b seen firsts).Pairwise fun mid mid' =>
      firstSeen firsts a mid < firstSeen firsts a mid' := by
  induction firsts generalizing seen with
  | nil => exact List.Pairwise.nil
  | cons p rest ih =>
      have shifted {seen' : List Address}
          (apart : ∀ mid, Fresh a b seen' mid → ¬ p.connects a mid = true) :
          (middlesFrom pools a b seen' rest).Pairwise fun mid mid' =>
            firstSeen (p :: rest) a mid < firstSeen (p :: rest) a mid' := by
        refine ih.imp_of_mem ?_
        intro mid mid' member member' before
        have fresh := (mem_middlesFrom_iff.mp member).1
        have fresh' := (mem_middlesFrom_iff.mp member').1
        rw [firstSeen_cons_of_not_connects fresh.notStart (apart mid fresh),
          firstSeen_cons_of_not_connects fresh'.notStart (apart mid' fresh')]
        omega
      by_cases met : ∃ mid, Fresh a b seen mid ∧ p.connects a mid = true
      · obtain ⟨met, fresh, joins⟩ := met
        have apart : ∀ mid, Fresh a b (met :: seen) mid → ¬ p.connects a mid = true := by
          intro mid later joins'
          obtain ⟨fresh', different⟩ := fresh_cons_iff.mp later
          exact different (eq_of_connects fresh'.notStart fresh.notStart joins' joins)
        rw [middlesFrom_of_connects fresh joins]
        refine List.pairwise_append.mpr ⟨?_, shifted apart, ?_⟩
        · split
          · exact List.pairwise_singleton _ _
          · exact List.Pairwise.nil
        · intro first here mid later
          have first_eq : first = met := by
            split at here
            · exact List.mem_singleton.mp here
            · exact nomatch here
          have fresh' := (mem_middlesFrom_iff.mp later).1
          rw [first_eq, firstSeen_cons_of_connects fresh.notStart joins,
            firstSeen_cons_of_not_connects fresh'.notStart (apart mid fresh')]
          omega
      · have apart : ∀ mid, Fresh a b seen mid → ¬ p.connects a mid = true :=
          fun mid fresh joins => met ⟨mid, fresh, joins⟩
        rw [middlesFrom, pairsFrom_of_apart apart]
        exact shifted apart

/-- The tokens that paths go through, each once. -/
def middles (pools : List Pool) (a b : Address) : List Address :=
  middlesFrom pools a b [] pools

/-! ## Paths -/

def On (platform : Platform) (pools : List Pool) : Prop :=
  ∀ p ∈ pools, p.platform = platform

/-- The hop goes through the first pool listed for its two tokens. -/
structure Listed (pools : List Pool) (platform : Platform) (hop : Hop) : Prop where
  platform : hop.platform = platform
  first : ∃ p, direct? pools hop.tokenIn hop.tokenOut = some p ∧ hop.pool = p.address

theorem ofPools?_of_direct? {platform : Platform} {first second : Pool} (one : On platform pools)
    (notStart : mid ≠ a) (notEnd : mid ≠ b)
    (found : direct? pools a mid = some first) (last : direct? pools mid b = some second) :
    ∃ together, TradePath.ofPools? first second a b = some
      (.via ⟨first.platform, first.address, a, mid⟩ ⟨second.platform, second.address, mid, b⟩ rfl
        together) := by
  obtain ⟨member, joins⟩ := direct?_eq_some found
  obtain ⟨member', joins'⟩ := direct?_eq_some last
  have across := (Pool.other?_eq_some_iff notStart).mpr joins
  have across' := (Pool.other?_eq_some_iff notEnd.symm).mpr joins'
  have together : first.platform = second.platform := (one _ member).trans (one _ member').symm
  refine ⟨together, ?_⟩
  simp [TradePath.ofPools?, across, across', TradePath.ofHops?, together]

theorem map_tokens_directPaths :
    (directPaths pools a b).map TradePath.tokens =
      if ∃ p ∈ pools, p.connects a b = true then [[a, b]] else [] := by
  unfold directPaths
  cases found : direct? pools a b with
  | none =>
      have nowhere : ¬ ∃ p ∈ pools, p.connects a b = true := by
        rw [← direct?_isSome_iff, found]
        exact nofun
      rw [if_neg nowhere]
      rfl
  | some p =>
      obtain ⟨member, joins⟩ := direct?_eq_some found
      rw [if_pos ⟨p, member, joins⟩]
      simp [TradePath.ofPool?, joins, TradePath.tokens, TradePath.tokenIn, TradePath.firstHop,
        TradePath.hops]

theorem map_tokens_viaPaths {platform : Platform} (one : On platform pools) :
    (viaPaths pools a b).map TradePath.tokens =
      (middles pools a b).map fun mid => [a, mid, b] := by
  unfold viaPaths middles middlesFrom
  rw [List.map_filterMap, List.map_filterMap]
  apply List.filterMap_congr
  rintro ⟨first, second⟩ member
  obtain ⟨mid, fresh, found, last⟩ := mem_pairsFrom_iff.mp member
  obtain ⟨together, path⟩ := ofPools?_of_direct? one fresh.notStart fresh.notEnd found last
  have across := (Pool.other?_eq_some_iff fresh.notStart).mpr (direct?_eq_some found).2
  simp [path, across, TradePath.tokens, TradePath.tokenIn, TradePath.firstHop, TradePath.hops]

theorem map_tokens_paths {platform : Platform} (one : On platform pools) :
    (paths pools a b).map TradePath.tokens =
      (if ∃ p ∈ pools, p.connects a b = true then [[a, b]] else []) ++
        (middles pools a b).map fun mid => [a, mid, b] := by
  rw [paths, List.map_append, map_tokens_directPaths, map_tokens_viaPaths one]

theorem nodup_tokens_paths {platform : Platform} (one : On platform pools) :
    ((paths pools a b).map TradePath.tokens).Nodup := by
  have once : (middles pools a b).Nodup :=
    pairwise_middlesFrom.imp fun {mid mid'} before same => by
      rw [same] at before
      exact Nat.lt_irrefl _ before
  rw [map_tokens_paths one, List.nodup_append]
  refine ⟨?_, once.map ?_, ?_⟩
  · split
    · exact List.nodup_singleton _
    · exact List.nodup_nil
  · intro mid mid' same
    simpa using same
  · -- Two tokens are never three.
    intro direct here via there same
    obtain ⟨mid, _, rfl⟩ := List.mem_map.mp there
    split at here
    · rw [List.mem_singleton.mp here] at same
      exact nomatch same
    · exact nomatch here

theorem listed_of_mem_paths {platform : Platform} (one : On platform pools) {path : TradePath}
    (member : path ∈ paths pools a b) {hop : Hop} (inside : hop ∈ path.hops) :
    Listed pools platform hop := by
  rcases List.mem_append.mp member with direct | via
  · obtain ⟨p, found, made⟩ := List.mem_filterMap.mp direct
    have found : direct? pools a b = some p := Option.mem_toList.mp found
    obtain ⟨listed, joins⟩ := direct?_eq_some found
    rw [TradePath.ofPool?, if_pos joins] at made
    cases made
    cases List.mem_singleton.mp inside
    exact ⟨one p listed, p, found, rfl⟩
  · obtain ⟨⟨first, second⟩, pair, made⟩ := List.mem_filterMap.mp via
    obtain ⟨mid, fresh, found, last⟩ := mem_pairsFrom_iff.mp pair
    obtain ⟨together, path⟩ := ofPools?_of_direct? one fresh.notStart fresh.notEnd found last
    cases path.symm.trans made
    rcases List.mem_pair.mp inside with rfl | rfl
    · exact ⟨one first (direct?_eq_some found).1, first, found, rfl⟩
    · exact ⟨one second (direct?_eq_some last).1, second, last, rfl⟩

theorem platform_of_mem_paths {platform : Platform} (one : On platform pools) {path : TradePath}
    (member : path ∈ paths pools a b) : path.platform = platform :=
  (listed_of_mem_paths one member path.firstHop_mem_hops).platform

theorem on_select (entries : List PoolEntry) (chain : UInt64) (platform : Platform) :
    On platform (PoolSource.select entries chain platform) := by
  intro p member
  obtain ⟨entry, kept, rfl⟩ := List.mem_map.mp member
  have fits := (List.mem_filter.mp kept).2
  simp only [Bool.and_eq_true, beq_iff_eq] at fits
  exact fits.2

/-- The candidates are the direct path, when some listed pool joins the ends, and then one path
through each token that listed pools join to both ends, in the order in which these tokens first
appear beside the start. No token sequence comes twice, and each hop goes through the first pool
listed for its two tokens. -/
theorem candidates_exactly (entries : List PoolEntry) (a b : Address) (platform : Platform)
    (chain : UInt64) :
    let listed := PoolSource.select entries chain platform
    ∃ (found : List TradePath) (mids : List Address),
      candidates (PoolSource.fixed entries) a b platform chain = .ok found ∧
      found.map TradePath.tokens =
        (if ∃ p ∈ listed, p.connects a b = true then [[a, b]] else []) ++
          mids.map (fun mid => [a, mid, b]) ∧
      (∀ mid, mid ∈ mids ↔ mid ≠ a ∧ mid ≠ b ∧ (∃ p ∈ listed, p.connects a mid = true) ∧
        ∃ p ∈ listed, p.connects mid b = true) ∧
      mids.Pairwise (fun mid mid' => firstSeen listed a mid < firstSeen listed a mid') ∧
      (found.map TradePath.tokens).Nodup ∧
      ∀ path ∈ found, ∀ hop ∈ path.hops, Listed listed platform hop := by
  intro listed
  have one : On platform listed := on_select entries chain platform
  refine ⟨paths listed a b, middles listed a b, rfl, map_tokens_paths one, ?_,
    pairwise_middlesFrom, nodup_tokens_paths one, ?_⟩
  · intro mid
    rw [middles, mem_middlesFrom_iff]
    constructor
    · rintro ⟨⟨notStart, notEnd, _⟩, joined⟩
      exact ⟨notStart, notEnd, joined⟩
    · rintro ⟨notStart, notEnd, joined⟩
      exact ⟨⟨notStart, notEnd, nofun⟩, joined⟩
  · intro path member hop inside
    exact listed_of_mem_paths one member inside

end Discovery

end SwapDesk
