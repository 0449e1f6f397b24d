import SwapDesk.Proofs.Route.Relisting

namespace SwapDesk

namespace Discovery

variable {keep : Pool → Bool} {pools : List Pool} {a b : Address}

/-- Whatever joins two different tokens is kept. -/
def KeepsPairs (keep : Pool → Bool) : Prop :=
  ∀ p a b, a ≠ b → p.connects a b = true → keep p = true

theorem keepsPairs_not_isSelfPair : KeepsPairs fun p => !p.isSelfPair := by
  intro p a b distinct joins
  simp [Pool.not_isSelfPair_of_connects distinct joins]

theorem direct?_filter (keeps : KeepsPairs keep) (distinct : a ≠ b) :
    direct? (pools.filter keep) a b = direct? pools a b := by
  rw [direct?, direct?, List.find?_filter]
  congr 1
  funext p
  cases joins : p.connects a b with
  | true => simp [keeps p a b distinct joins]
  | false => simp

theorem pairsFrom_filter (keeps : KeepsPairs keep) (a b : Address) (seen : List Address)
    (firsts : List Pool) :
    pairsFrom (pools.filter keep) a b seen (firsts.filter keep) =
      pairsFrom pools a b seen firsts := by
  induction firsts generalizing seen with
  | nil => rfl
  | cons p rest ih =>
      by_cases met : ∃ mid, Fresh a b seen mid ∧ p.connects a mid = true
      · obtain ⟨mid, fresh, joins⟩ := met
        have kept : keep p = true := keeps p a mid fresh.notStart.symm joins
        rw [List.filter_cons_of_pos kept, pairsFrom_of_connects fresh joins,
          pairsFrom_of_connects fresh joins, direct?_filter keeps fresh.notEnd, ih]
      · have apart : ∀ mid, Fresh a b seen mid → ¬ p.connects a mid = true :=
          fun mid fresh joins => met ⟨mid, fresh, joins⟩
        rw [pairsFrom_of_apart apart, ← ih]
        by_cases kept : keep p = true
        · rw [List.filter_cons_of_pos kept, pairsFrom_of_apart apart]
        · rw [List.filter_cons_of_neg kept]

theorem intermediates_filter (keeps : KeepsPairs keep) (a b : Address) :
    intermediates (pools.filter keep) a b = intermediates pools a b :=
  pairsFrom_filter keeps a b [] pools

theorem paths_filter (keeps : KeepsPairs keep) (distinct : a ≠ b) :
    paths (pools.filter keep) a b = paths pools a b := by
  rw [paths, paths, directPaths, directPaths, viaPaths, viaPaths, direct?_filter keeps distinct,
    intermediates_filter keeps]

structure SameFindings (source source' : PoolSource) (a b : Address) : Prop where
  direct : findDirect source a b = findDirect source' a b
  intermediates : findIntermediates source a b = findIntermediates source' a b
  candidates : candidates source a b = candidates source' a b

theorem sameFindings_of_filter {source source' : PoolSource} (keeps : KeepsPairs keep)
    (filtered : ∀ chain platform,
      source' chain platform = (source chain platform).map (List.filter keep))
    (distinct : a ≠ b) : SameFindings source' source a b := by
  have mapped {α : Type} (find : List Pool → α)
      (same : ∀ pools, find (pools.filter keep) = find pools) (chain : UInt64)
      (platform : Platform) :
      (source' chain platform).map find = (source chain platform).map find := by
    rw [filtered]
    cases source chain platform with
    | error e => rfl
    | ok pools => exact congrArg Except.ok (same pools)
  refine ⟨?_, ?_, ?_⟩
  · funext platform chain
    exact mapped _ (fun pools => direct?_filter keeps distinct) chain platform
  · funext platform chain
    unfold findIntermediates
    simp only [mapped (intermediates · a b) (fun pools => intermediates_filter keeps a b)]
  · funext platform chain
    exact mapped _ (fun pools => paths_filter keeps distinct) chain platform

end Discovery

namespace PoolSource

theorem fixedOfText_eq_ok_iff {text : String} {source : PoolSource} : fixedOfText text = .ok source ↔
    ∃ entries, PoolEntry.readAll? text = some entries ∧ source = fixed entries := by
  unfold fixedOfText
  cases PoolEntry.readAll? text with
  | none => simp
  | some entries => simp [eq_comm]

end PoolSource

namespace TradeRouter

variable {r : TradeRouter} {source : PoolSource}

theorem route_source
    (same : ∀ a b, a ≠ b → Discovery.candidates source a b = Discovery.candidates r.source a b)
    (req : RouteRequest) : { r with source := source }.route req = r.route req := by
  have planned : { r with source := source }.plan req = r.plan req := by
    rw [plan_eq_search, plan_eq_search, search_source]
    cases sought : r.search req with
    | error e => rfl
    | ok s =>
        have distinct := (search_eq_ok sought).1
        change (s.platforms.mapM fun p => Discovery.candidates source s.start s.finish p req.chain)
          >>= _ = _
        rw [same _ _ distinct]
        rfl
  unfold route
  rw [planned]

/-- A pool list routes alike from a file and as a fixed list. The file leaves out the pools of one
token with itself and nothing else; for two different tokens all searches find the same over either
source; and every run ends in the same way after the same calls. -/
theorem route_file_eq_route_fixed {text : String} {fixed : PoolSource}
    (parsed : PoolSource.fixedOfText text = .ok fixed) (path : String) :
    let file := PoolSource.file path (some text)
    (∀ chain platform, ∃ pools, fixed chain platform = .ok pools ∧
      file chain platform = .ok (pools.filter fun p => !p.isSelfPair)) ∧
    (∀ a b, a ≠ b → Discovery.SameFindings file fixed a b) ∧
    ∀ (r : TradeRouter) (req : RouteRequest),
      { r with source := file }.route req = { r with source := fixed }.route req := by
  intro file
  obtain ⟨entries, read, rfl⟩ := PoolSource.fixedOfText_eq_ok_iff.mp parsed
  have lists : ∀ chain platform, ∃ pools, PoolSource.fixed entries chain platform = .ok pools ∧
      file chain platform = .ok (pools.filter fun p => !p.isSelfPair) :=
    fun chain platform => ⟨_, rfl, PoolSource.file_of_readAll? read path chain platform⟩
  have findings : ∀ a b, a ≠ b →
      Discovery.SameFindings file (PoolSource.fixed entries) a b := by
    intro a b distinct
    refine Discovery.sameFindings_of_filter Discovery.keepsPairs_not_isSelfPair ?_ distinct
    intro chain platform
    obtain ⟨pools, listed, kept⟩ := lists chain platform
    rw [listed, kept]
    rfl
  refine ⟨lists, findings, fun r req => ?_⟩
  exact route_source (r := { r with source := .fixed entries })
    (fun a b distinct => (findings a b distinct).candidates) req

end TradeRouter

namespace Sample

def addressText (digits : String) : List Char :=
  "\"0x".toList ++ List.replicate 38 '0' ++ digits.toList ++ ['"']

def poolText (token0 token1 address : String) : List Char :=
  "[\"pancake\",56,".toList ++ addressText token0 ++ [','] ++ addressText token1 ++ [','] ++
    addressText address ++ ",null]".toList

def listing : String :=
  String.ofList (['['] ++ poolText "01" "01" "50" ++ [','] ++ poolText "01" "02" "51" ++ [']'])

def listed : List PoolEntry :=
  [pool .pancake 1 1 80, pool .pancake 1 2 81]

theorem readAll?_listing : PoolEntry.readAll? listing = some listed := by
  simp only [PoolEntry.readAll?, Json.write?, listing, String.toList_ofList]
  decide +kernel

end Sample

namespace TradeRouter

/-- A search for one token twice tells the sources apart; a run does not. -/
theorem route_file_eq_route_fixed_listing :
    let fixed := PoolSource.fixed Sample.listed
    let file := PoolSource.file "pools.json" (some Sample.listing)
    PoolSource.fixedOfText Sample.listing = .ok fixed ∧
      Discovery.findDirect file (.ofNat 1) (.ofNat 1) .pancake 56 = .ok none ∧
      Discovery.findDirect fixed (.ofNat 1) (.ofNat 1) .pancake 56 =
        .ok (some (Sample.pool .pancake 1 1 80).pool) ∧
      Discovery.SameFindings file fixed (.ofNat 1) (.ofNat 2) ∧
      { Sample.market [] with source := file }.route Sample.request =
        { Sample.market [] with source := fixed }.route Sample.request := by
  intro fixed file
  have parsed : PoolSource.fixedOfText Sample.listing = .ok fixed :=
    PoolSource.fixedOfText_eq_ok_iff.mpr ⟨_, Sample.readAll?_listing, rfl⟩
  have nowhere : Discovery.findDirect file (.ofNat 1) (.ofNat 1) .pancake 56 = .ok none := by
    simp only [Discovery.findDirect, file, PoolSource.file_of_readAll? Sample.readAll?_listing]
    decide +kernel
  obtain ⟨_, findings, routes⟩ := route_file_eq_route_fixed parsed "pools.json"
  exact ⟨parsed, nowhere, by decide +kernel, findings _ _ (by decide), routes _ _⟩

end TradeRouter

end SwapDesk
