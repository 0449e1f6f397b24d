import SwapDesk.Proofs.Route.Relisting
import SwapDesk.Proofs.Route.Traffic

namespace SwapDesk

inductive Leads (start finish : Address) : List Hop → Prop
  | direct (platform : Platform) (pool : Address) :
      Leads start finish [⟨platform, pool, start, finish⟩]
  | via (mid : Address) (notStart : mid ≠ start) (notFinish : mid ≠ finish)
      (platform platform' : Platform) (pool pool' : Address) :
      Leads start finish [⟨platform, pool, start, mid⟩, ⟨platform', pool', mid, finish⟩]

def Hop.Through (hop : Hop) (entries : List PoolEntry) (chain : UInt64) : Prop :=
  ∃ pool : Pool, ⟨chain, pool⟩ ∈ entries ∧ pool.platform = hop.platform ∧
    pool.address = hop.pool ∧
    (pool.token0 = hop.tokenIn ∧ pool.token1 = hop.tokenOut ∨
      pool.token0 = hop.tokenOut ∧ pool.token1 = hop.tokenIn)

theorem Discovery.leads_of_mem_paths {platform : Platform} {pools : List Pool} {a b : Address}
    (one : On platform pools) {path : TradePath} (member : path ∈ paths pools a b) :
    Leads a b path.hops := by
  have tokens : path.tokens ∈ (paths pools a b).map TradePath.tokens := List.mem_map_of_mem member
  rw [map_tokens_paths one] at tokens
  rcases List.mem_append.mp tokens with direct | via
  · have ends : path.tokens = [a, b] := by
      split at direct
      · exact List.mem_singleton.mp direct
      · exact nomatch direct
    cases path with
    | direct hop =>
        cases ends
        exact .direct hop.platform hop.pool
    | via first second joined together => exact nomatch ends
  · obtain ⟨mid, between, ends⟩ := List.mem_map.mp via
    have fresh := (mem_middlesFrom_iff.mp between).1
    cases path with
    | direct hop => exact nomatch ends
    | via first second joined together =>
        obtain ⟨platform, pool, tokenIn, tokenOut⟩ := first
        obtain ⟨platform', pool', tokenIn', tokenOut'⟩ := second
        cases joined
        cases ends
        exact .via _ fresh.notStart fresh.notEnd platform platform' pool pool'

namespace PoolSource

variable {source : PoolSource} {entries : List PoolEntry} {chain : UInt64} {platform : Platform}

theorem mem_select {p : Pool} :
    p ∈ select entries chain platform ↔ ⟨chain, p⟩ ∈ entries ∧ p.platform = platform := by
  simp only [select, List.mem_map, List.mem_filter, Bool.and_eq_true, beq_iff_eq]
  constructor
  · rintro ⟨⟨_, _⟩, ⟨member, rfl, sold⟩, rfl⟩
    exact ⟨member, sold⟩
  · rintro ⟨member, on⟩
    exact ⟨⟨chain, p⟩, ⟨member, rfl, on⟩, rfl⟩

theorem Lists.mem_entries (lists : source.Lists entries) {pools : List Pool}
    (read : source chain platform = .ok pools) :
    ∀ p ∈ pools, ⟨chain, p⟩ ∈ entries ∧ p.platform = platform := by
  cases lists with
  | fixed =>
      cases read
      exact fun p member => mem_select.mp member
  | file path text parsed =>
      simp only [PoolSource.file, parsed] at read
      cases read
      exact fun p kept => mem_select.mp (List.mem_of_mem_filter kept)

end PoolSource

theorem Discovery.Listed.through {pools : List Pool} {platform : Platform} {hop : Hop}
    (listed : Listed pools platform hop) {entries : List PoolEntry} {chain : UInt64}
    (entered : ∀ p ∈ pools, ⟨chain, p⟩ ∈ entries ∧ p.platform = platform) :
    hop.Through entries chain := by
  obtain ⟨p, found, address⟩ := listed.first
  obtain ⟨member, joins⟩ := direct?_eq_some found
  obtain ⟨entry, on⟩ := entered p member
  simp only [Pool.connects, Bool.or_eq_true, Bool.and_eq_true, beq_iff_eq] at joins
  exact ⟨p, entry, on.trans listed.platform.symm, address.symm, joins⟩

namespace TradeRouter

variable {r : TradeRouter} {req : RouteRequest} {quote : Quote} {entries : List PoolEntry}

/-- What a quote is, of a request that looks for a trade between two tokens. -/
structure Genuine (r : TradeRouter) (req : RouteRequest) (entries : List PoolEntry)
    (start finish : Address) (platform : Platform) (quote : Quote) : Prop where
  leads : Leads start finish quote.path.hops
  distinct : start ≠ finish
  routed : ∃ router, r.routers.get? platform = some router
  requested : ∀ p, req.platform = some p → p = platform
  on : ∀ hop ∈ quote.path.hops, hop.platform = platform
  through : ∀ hop ∈ quote.path.hops, hop.Through entries req.chain
  paid : quote.amountIn ≠ 0
  received : quote.amountOut ≠ 0
  head : r.chain.head 0 = .ok quote.block
  pinned : ∃ plan, r.plan req = .ok plan ∧ quote.path ∈ plan.paths ∧
    (r.route req).calls =
      [.head, .call (BatchRead.transaction r.batch plan.subCalls) quote.block]

theorem Planned.exists_pools {plan : Plan} {tokenIn tokenOut : Token} {platforms : List Platform}
    {found : List (List TradePath)}
    (made : r.Planned req plan tokenIn tokenOut platforms found) {path : TradePath}
    (member : path ∈ plan.paths) :
    ∃ p ∈ platforms, ∃ pools, r.source req.chain p = .ok pools ∧
      path ∈ Discovery.paths pools tokenIn.address tokenOut.address := by
  rw [made.flattened] at member
  obtain ⟨paths, listed, inside⟩ := List.mem_flatten.mp member
  obtain ⟨p, searched, candidates⟩ := Checked.exists_of_mem_right made.listed listed
  obtain ⟨pools, read, rfl⟩ := Checked.map_eq_ok_iff.mp candidates
  exact ⟨p, searched, pools, read, inside⟩

theorem eq_of_requested {platforms : List Platform} (searched : r.platforms req = .ok platforms)
    {p p' : Platform} (requested : req.platform = some p) (member : p' ∈ platforms) : p = p' := by
  rcases platforms_eq_ok_iff.mp searched with ⟨anywhere, _⟩ | ⟨_, _, requested', _, rfl⟩
  · exact nomatch anywhere.symm.trans requested
  · cases requested.symm.trans requested'
    exact (List.mem_singleton.mp member).symm

/-- The path of a quote is one that was asked for. It leads from the one token to the other over
listed pools of a single platform that has a router. Its amounts are not zero, and its block is the
one that its sub-calls were pinned to. -/
theorem genuine_of_route (lists : r.source.Lists entries)
    (routed : (r.route req).result = .ok quote) :
    ∃ tokenIn tokenOut platform,
      r.tokens.resolve? req.tokenIn req.chain = some tokenIn ∧
      r.tokens.resolve? req.tokenOut req.chain = some tokenOut ∧
      r.Genuine req entries tokenIn.address tokenOut.address platform quote := by
  obtain ⟨plan, block, answers, reads⟩ := reads_of_route_ok routed
  obtain ⟨tokenIn, tokenOut, platforms, found, made⟩ := planned_of_plan reads.planned
  obtain ⟨c, member, priced⟩ := reads.winner routed
  obtain ⟨_, _, _, _, paid, received, samePath⟩ := Answered.price?_eq_some_iff.mp priced
  change c.path = quote.path at samePath
  have planned : quote.path ∈ plan.paths := by
    rw [← reads.zip_paths, ← samePath]
    exact List.mem_map_of_mem member
  obtain ⟨p, searched, pools, read, inside⟩ := made.exists_pools planned
  have entered := lists.mem_entries read
  have one : Discovery.On p pools := fun pool listed => (entered pool listed).2
  have listed : ∀ hop ∈ quote.path.hops, Discovery.Listed pools p hop :=
    fun _ => Discovery.listed_of_mem_paths one inside
  have block := reads.block_eq routed
  subst block
  refine ⟨tokenIn, tokenOut, p, resolve_eq_ok_iff.mp made.resolvedIn,
    resolve_eq_ok_iff.mp made.resolvedOut, ?_⟩
  exact {
    leads := Discovery.leads_of_mem_paths one inside
    distinct := made.distinct
    routed := routed_of_platforms made.searched p searched
    requested := fun p' requested => eq_of_requested made.searched requested searched
    on := fun hop inside => (listed hop inside).platform
    through := fun hop inside => (listed hop inside).through entered
    paid := paid
    received := received
    head := reads.head
    pinned := ⟨plan, reads.planned, planned, by
      rw [route_of_head reads.planned reads.head]⟩ }

theorem genuine_of_route_exchange :
    ∃ tokenIn tokenOut, Sample.exchange.tokens.resolve? "BTC" 56 = some tokenIn ∧
      Sample.exchange.tokens.resolve? "FIL" 56 = some tokenOut ∧
      Sample.exchange.Genuine Sample.request Sample.pools tokenIn.address tokenOut.address
        .pancake ⟨Sample.through 81, 10, 30, 7⟩ := by
  have routed : (Sample.exchange.route Sample.request).result =
      .ok ⟨Sample.through 81, 10, 30, 7⟩ := by
    decide +kernel
  obtain ⟨tokenIn, tokenOut, platform, resolvedIn, resolvedOut, genuine⟩ :=
    genuine_of_route .fixed routed
  have onPancake : Platform.pancake = platform := genuine.on (Sample.through 81).firstHop (by decide)
  rw [← onPancake] at genuine
  exact ⟨tokenIn, tokenOut, resolvedIn, resolvedOut, genuine⟩

end TradeRouter

end SwapDesk
