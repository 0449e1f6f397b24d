import SwapDesk.Proofs.Route.Relisting

/-!
A request for any platform beside the same request for one platform at a time. The candidates of
the open request are those of the restricted ones, in the order of priority, and each is asked the
same, so the open request gets the best of the quotes that the restricted ones get.
-/

namespace SwapDesk

abbrev RouteRequest.within (req : RouteRequest) (platform : Option Platform) : RouteRequest :=
  { req with platform := platform }

namespace TradeRouter

variable {r : TradeRouter} {req : RouteRequest} {answer : SubCall → Option Bytes}
  {block : UInt64}

theorem Answers.concluded_of_search {pools : UInt64 → Platform → List Pool} {s : Search}
    (answers : r.Answers req block answer) (gives : r.source.Gives pools)
    (sought : r.search req = .ok s) :
    Concluded req ((pathsOver pools req.chain s).map (r.answered req answer)) block
      (r.route req).result := by
  by_cases none : pathsOver pools req.chain s = []
  · rw [route_of_plan_error (plan_of_no_paths gives sought none), none]
    exact .unpriced nofun nofun
  · exact answers.concluded gives sought none

theorem search_within {p : Platform} (configured : p ∈ r.routers.platforms) :
    r.search (req.within (some p)) =
      (r.search (req.within none)).map fun s => { s with platforms := [p] } := by
  obtain ⟨router, routed⟩ := Option.isSome_iff_exists.mp (Routers.mem_platforms.mp configured)
  have one : r.platforms (req.within (some p)) = .ok [p] :=
    platforms_eq_ok_iff.mpr (.inr ⟨p, router, rfl, routed, rfl⟩)
  have all : r.platforms (req.within none) = .ok r.routers.platforms := rfl
  unfold search
  rw [one, all]
  cases r.resolve req.tokenIn req.chain req.uid with
  | error e => rfl
  | ok tokenIn =>
      cases r.resolve req.tokenOut req.chain req.uid with
      | error e => rfl
      | ok tokenOut =>
          simp only [bind, Except.bind]
          by_cases zero : req.amount = 0
          · rw [if_pos zero, if_pos zero]
            rfl
          rw [if_neg zero, if_neg zero]
          by_cases same : tokenIn.address = tokenOut.address
          · rw [if_pos same, if_pos same]
            rfl
          · rw [if_neg same, if_neg same]
            rfl

/-- The quotes that the request gets on each platform alone, in the order of priority. -/
def quotesByPlatform (r : TradeRouter) (req : RouteRequest) : List Quote :=
  r.routers.platforms.filterMap fun p => (r.route (req.within (some p))).result.toOption

theorem mem_quotesByPlatform {quote : Quote} :
    quote ∈ r.quotesByPlatform req ↔ ∃ p ∈ r.routers.platforms,
      (r.route (req.within (some p))).result = .ok quote := by
  simp only [quotesByPlatform, List.mem_filterMap]
  refine exists_congr fun p => and_congr_right fun _ => ?_
  cases (r.route (req.within (some p))).result with
  | error e => simp [Except.toOption]
  | ok other => simp [Except.toOption]

theorem Answers.block_eq {quote : Quote} (answers : r.Answers req block answer)
    (routed : (r.route req).result = .ok quote) : quote.block = block := by
  obtain ⟨plan, block', found, reads⟩ := reads_of_route_ok routed
  rw [reads.block_eq routed]
  exact Except.ok.inj (reads.head.symm.trans answers.head)

section Compared

variable {entries : List PoolEntry} (lists : r.source.Lists entries)
  (answers : ∀ platform, r.Answers (req.within platform) block answer)

include lists answers

/-- Either no run gets as far as looking for paths, or the open run decides on the candidates of
all the restricted ones. -/
theorem within_concluded :
    (∃ e, (r.route (req.within none)).result = .error e ∧
      ∀ p ∈ r.routers.platforms, (r.route (req.within (some p))).result = .error e) ∨
    ∃ offers : Platform → List Answered,
      Concluded (req.within none) (r.routers.platforms.flatMap offers) block
        (r.route (req.within none)).result ∧
      ∀ p ∈ r.routers.platforms, Concluded (req.within (some p)) (offers p) block
        (r.route (req.within (some p))).result := by
  obtain ⟨pools, gives, _⟩ := lists.gives
  cases sought : r.search (req.within none) with
  | error e =>
      refine .inl ⟨e, route_of_plan_error (plan_of_search_error sought), ?_⟩
      intro p configured
      refine route_of_plan_error (plan_of_search_error ?_)
      rw [search_within configured, sought]
      rfl
  | ok s =>
      refine .inr ⟨fun p => (Discovery.paths (pools req.chain p) s.start s.finish).map
        (r.answered req answer), ?_, ?_⟩
      · have all : r.routers.platforms = s.platforms := Except.ok.inj (search_eq_ok sought).2
        rw [all, ← List.map_flatMap]
        exact (answers none).concluded_of_search gives sought
      · intro p configured
        have soughtOn : r.search (req.within (some p)) = .ok { s with platforms := [p] } := by
          rw [search_within configured, sought]
          rfl
        have concluded := (answers (some p)).concluded_of_search gives soughtOn
        rwa [pathsOver, List.flatMap_singleton] at concluded

theorem incomparable_within {p : Platform} (configured : p ∈ r.routers.platforms)
    (incomparable : Incomparable (r.route (req.within (some p))).result) :
    Incomparable (r.route (req.within none)).result := by
  rcases within_concluded lists answers with ⟨e, failed, failedOn⟩ | ⟨offers, all, only⟩
  · rw [failedOn p configured] at incomparable
    rwa [failed]
  · obtain ⟨c, member, count⟩ := (only p configured).incomparable_iff.mp incomparable
    exact all.incomparable_iff.mpr ⟨c, List.mem_flatMap.mpr ⟨p, configured, member⟩, count⟩

variable (comparable : ∀ p ∈ r.routers.platforms,
  ¬ Incomparable (r.route (req.within (some p))).result)

include comparable

theorem toOption_within :
    (r.route (req.within none)).result.toOption.map Quote.priced =
      Priced.best? req.direction ((r.quotesByPlatform req).map Quote.priced) := by
  rcases within_concluded lists answers with ⟨e, failed, failedOn⟩ | ⟨offers, all, only⟩
  · have nothing : r.quotesByPlatform req = [] := by
      refine List.eq_nil_iff_forall_not_mem.mpr fun quote member => ?_
      obtain ⟨p, configured, quoted⟩ := mem_quotesByPlatform.mp member
      exact nomatch (failedOn p configured).symm.trans quoted
    rw [failed, nothing]
    rfl
  · -- A candidate of the open run is one of some platform, so none is miscounted.
    have comparableAll : ¬ Incomparable (r.route (req.within none)).result := by
      intro incomparable
      obtain ⟨c, member, count⟩ := all.incomparable_iff.mp incomparable
      obtain ⟨p, configured, offered⟩ := List.mem_flatMap.mp member
      exact comparable p configured ((only p configured).incomparable_iff.mpr ⟨c, offered, count⟩)
    have winners : (r.quotesByPlatform req).map Quote.priced =
        r.routers.platforms.filterMap fun p =>
          Priced.best? req.direction ((offers p).filterMap Answered.price?) := by
      rw [quotesByPlatform, List.map_filterMap]
      refine List.filterMap_congr fun p configured => ?_
      exact (only p configured).toOption_priced (comparable p configured)
    rw [all.toOption_priced comparableAll, winners, ← Priced.best?_flatMap, List.filterMap_flatMap]

theorem best?_quotesByPlatform {quote : Quote}
    (quoted : (r.route (req.within none)).result = .ok quote) :
    Priced.best? req.direction ((r.quotesByPlatform req).map Quote.priced) =
      some quote.priced := by
  rw [← toOption_within lists answers comparable, quoted]
  rfl

theorem exists_quote_within :
    (∃ quote, (r.route (req.within none)).result = .ok quote) ↔
      ∃ p ∈ r.routers.platforms, ∃ quote, (r.route (req.within (some p))).result = .ok quote := by
  constructor
  · rintro ⟨quote, quoted⟩
    have best := best?_quotesByPlatform lists answers comparable quoted
    obtain ⟨other, member, _⟩ := List.mem_map.mp (Priced.mem_of_best? best)
    obtain ⟨p, configured, quotedOn⟩ := mem_quotesByPlatform.mp member
    exact ⟨p, configured, other, quotedOn⟩
  · rintro ⟨p, configured, other, quotedOn⟩
    have member := mem_quotesByPlatform.mpr ⟨p, configured, quotedOn⟩
    have winner := toOption_within lists answers comparable
    cases ended : (r.route (req.within none)).result with
    | ok quote => exact ⟨quote, rfl⟩
    | error e =>
        rw [ended] at winner
        have nothing := List.map_eq_nil_iff.mp (Priced.best?_eq_none.mp winner.symm)
        rw [nothing] at member
        exact nomatch member

end Compared

/-- An open request is incomparable when a restricted one is. Otherwise it has a quote exactly
when a restricted one has, and then its quote is the first of their best, in the order of priority;
no platform alone gives a better one. -/
theorem best_quoteByPlatform {entries : List PoolEntry} (lists : r.source.Lists entries)
    (answers : ∀ platform, r.Answers (req.within platform) block answer) :
    let all := (r.route (req.within none)).result
    let only := fun p => (r.route (req.within (some p))).result
    ((∃ p ∈ r.routers.platforms, Incomparable (only p)) → Incomparable all) ∧
    ((∀ p ∈ r.routers.platforms, ¬ Incomparable (only p)) →
      ((∃ quote, all = .ok quote) ↔ ∃ p ∈ r.routers.platforms, ∃ quote, only p = .ok quote) ∧
      ∀ quote, all = .ok quote →
        quote ∈ r.quotesByPlatform req ∧
        Priced.best? req.direction ((r.quotesByPlatform req).map Quote.priced) =
          some quote.priced ∧
        ∀ p ∈ r.routers.platforms, ∀ other, only p = .ok other →
          other.block = quote.block ∧
          ¬ Priced.better req.direction other.priced quote.priced) := by
  intro all only
  refine ⟨fun ⟨p, configured, incomparable⟩ =>
    incomparable_within lists answers configured incomparable, fun comparable => ?_⟩
  refine ⟨exists_quote_within lists answers comparable, fun quote quoted => ?_⟩
  have won := best?_quotesByPlatform lists answers comparable quoted
  have sameBlock : ∀ p other, only p = .ok other → other.block = quote.block :=
    fun p other quotedOn => ((answers (some p)).block_eq quotedOn).trans
      ((answers none).block_eq quoted).symm
  refine ⟨?_, won, ?_⟩
  · -- The winner is known by its price; the block, which is not compared, makes it the quote.
    obtain ⟨other, member, same⟩ := List.mem_map.mp (Priced.mem_of_best? won)
    obtain ⟨p, _, quotedOn⟩ := mem_quotesByPlatform.mp member
    have equal : other = quote := Quote.ext_priced same (sameBlock p other quotedOn)
    rwa [equal] at member
  · intro p configured other quotedOn
    refine ⟨sameBlock p other quotedOn, ?_⟩
    have member : other.priced ∈ (r.quotesByPlatform req).map Quote.priced :=
      List.mem_map_of_mem (mem_quotesByPlatform.mpr ⟨p, configured, quotedOn⟩)
    rw [Priced.better_iff, not_lt]
    exact Priced.rank_le_of_best? won member

end TradeRouter

namespace Sample

theorem exchange_answers (platform : Option Platform) :
    exchange.Answers (request.within platform) 7 answer := by
  refine ⟨rfl, fun plan found => ?_⟩
  rcases platform with _ | p
  · have planned : exchange.plan (request.within none) = .ok (planThrough 81) := by
      decide +kernel
    cases planned.symm.trans found
    decide +kernel
  cases p with
  | pancake =>
      have planned : exchange.plan (request.within (some .pancake)) =
          .ok ⟨[through 81], [subCall 101 (through 81)]⟩ := by
        decide +kernel
      cases planned.symm.trans found
      decide +kernel
  | apeswap =>
      have refused : exchange.plan (request.within (some .apeswap)) =
          .error (.unsupportedPlatform "run" "apeswap" 56) := by
        decide +kernel
      exact nomatch refused.symm.trans found
  | biswap =>
      have planned : exchange.plan (request.within (some .biswap)) =
          .ok ⟨[direct], [subCall 103 direct]⟩ := by
        decide +kernel
      cases planned.symm.trans found
      decide +kernel

theorem exchange_pancake :
    (exchange.route (request.within (some .pancake))).result = .ok ⟨through 81, 10, 30, 7⟩ := by
  decide +kernel

theorem exchange_biswap :
    (exchange.route (request.within (some .biswap))).result = .ok ⟨direct, 10, 20, 7⟩ := by
  decide +kernel

theorem exchange_platforms : exchange.routers.platforms = [.pancake, .biswap] := by
  decide

end Sample

namespace TradeRouter

/-- On its own each platform has a quote, and the open request takes the one that pays more. -/
theorem best_quoteByPlatform_exchange :
    let through : Quote := ⟨Sample.through 81, 10, 30, 7⟩
    let direct : Quote := ⟨Sample.direct, 10, 20, 7⟩
    (∀ platform, Sample.exchange.Answers (Sample.request.within platform) 7 Sample.answer) ∧
      (Sample.exchange.route (Sample.request.within (some .pancake))).result = .ok through ∧
      (Sample.exchange.route (Sample.request.within (some .biswap))).result = .ok direct ∧
      (Sample.exchange.route (Sample.request.within none)).result = .ok through ∧
      ¬ Priced.better .exactIn direct.priced through.priced := by
  intro through direct
  have comparable : ∀ p ∈ Sample.exchange.routers.platforms,
      ¬ Incomparable (Sample.exchange.route (Sample.request.within (some p))).result := by
    rw [Sample.exchange_platforms]
    rintro p member ⟨uid, reason, failed⟩
    rcases List.mem_pair.mp member with rfl | rfl
    · exact nomatch Sample.exchange_pancake.symm.trans failed
    · exact nomatch Sample.exchange_biswap.symm.trans failed
  obtain ⟨succeeds, best⟩ := (best_quoteByPlatform .fixed Sample.exchange_answers).2 comparable
  obtain ⟨quote, quoted⟩ := succeeds.mpr ⟨.biswap, by decide, direct, Sample.exchange_biswap⟩
  obtain ⟨_, won, notWorse⟩ := best quote quoted
  have quotes : Sample.exchange.quotesByPlatform Sample.request = [through, direct] := by
    simp only [quotesByPlatform, Sample.exchange_platforms, List.filterMap_cons,
      List.filterMap_nil, Sample.exchange_pancake, Sample.exchange_biswap, Except.toOption]
    rfl
  have first : Priced.best? .exactIn [through.priced, direct.priced] = some through.priced := by
    decide
  rw [quotes] at won
  have equal : quote = through := Quote.ext_priced (Option.some.inj (won.symm.trans first))
    ((Sample.exchange_answers none).block_eq quoted)
  rw [equal] at quoted notWorse
  exact ⟨Sample.exchange_answers, Sample.exchange_pancake, Sample.exchange_biswap, quoted,
    (notWorse .biswap (by decide) direct Sample.exchange_biswap).2⟩

end TradeRouter

end SwapDesk
