import SwapDesk.Proofs.Route.Planning

/-!
Routing and the order of the pool list. Another order gives other pools to the hops and another
order to the candidates, but the same platforms and tokens, and with them the same answers. A quote
of one order is therefore a candidate of the other, and neither order has a better one.
-/

namespace SwapDesk

structure TradePath.Alike (path path' : TradePath) : Prop where
  platform : path.platform = path'.platform
  tokens : path.tokens = path'.tokens

theorem TradePath.Alike.length {path path' : TradePath} (alike : path.Alike path') :
    path.length = path'.length := by
  have counted := congrArg List.length alike.tokens
  rw [path.length_tokens, path'.length_tokens] at counted
  exact Nat.succ.inj counted

/-! ## Pairs of tokens -/

namespace Discovery

variable {pools pools' : List Pool} {a b : Address}

/-- The lists join the same pairs of different tokens. -/
def SamePairs (pools pools' : List Pool) : Prop :=
  ∀ a b, a ≠ b →
    ((∃ p ∈ pools, p.connects a b = true) ↔ ∃ p ∈ pools', p.connects a b = true)

theorem SamePairs.symm (same : SamePairs pools pools') : SamePairs pools' pools :=
  fun a b distinct => (same a b distinct).symm

theorem SamePairs.trans {pools'' : List Pool} (same : SamePairs pools pools')
    (same' : SamePairs pools' pools'') : SamePairs pools pools'' :=
  fun a b distinct => (same a b distinct).trans (same' a b distinct)

theorem samePairs_of_perm (reordered : pools.Perm pools') : SamePairs pools pools' := by
  intro a b _
  simp only [reordered.mem_iff]

theorem samePairs_filter_isSelfPair :
    SamePairs (pools.filter fun p => !p.isSelfPair) pools := by
  intro a b distinct
  constructor
  · rintro ⟨p, kept, joins⟩
    exact ⟨p, List.mem_of_mem_filter kept, joins⟩
  · rintro ⟨p, member, joins⟩
    have kept : (!p.isSelfPair) = true := by simp [Pool.not_isSelfPair_of_connects distinct joins]
    exact ⟨p, List.mem_filter.mpr ⟨member, kept⟩, joins⟩

theorem tokens_mem_of_samePairs {platform : Platform} (one : On platform pools)
    (one' : On platform pools') (same : SamePairs pools pools') (distinct : a ≠ b)
    {tokens : List Address} (found : tokens ∈ (paths pools a b).map TradePath.tokens) :
    tokens ∈ (paths pools' a b).map TradePath.tokens := by
  rw [map_tokens_paths one] at found
  rw [map_tokens_paths one']
  rcases List.mem_append.mp found with direct | via
  · apply List.mem_append_left
    split at direct
    · rename_i joined
      rwa [if_pos ((same a b distinct).mp joined)]
    · exact nomatch direct
  · apply List.mem_append_right
    obtain ⟨mid, between, rfl⟩ := List.mem_map.mp via
    obtain ⟨fresh, joined, joined'⟩ := mem_middlesFrom_iff.mp between
    have between' : mid ∈ middles pools' a b := mem_middlesFrom_iff.mpr
      ⟨fresh, (same a mid fresh.notStart.symm).mp joined, (same mid b fresh.notEnd).mp joined'⟩
    exact List.mem_map_of_mem between'

theorem exists_alike {platform : Platform} (one : On platform pools) (one' : On platform pools')
    (same : SamePairs pools pools') (distinct : a ≠ b) {path : TradePath}
    (found : path ∈ paths pools a b) : ∃ path' ∈ paths pools' a b, path.Alike path' := by
  have listed : path.tokens ∈ (paths pools a b).map TradePath.tokens := List.mem_map_of_mem found
  obtain ⟨path', found', tokens⟩ :=
    List.mem_map.mp (tokens_mem_of_samePairs one one' same distinct listed)
  refine ⟨path', found', ?_, tokens.symm⟩
  rw [platform_of_mem_paths one found, platform_of_mem_paths one' found']

end Discovery

namespace PoolSource

variable {source : PoolSource} {entries entries' : List PoolEntry}

inductive Lists (entries : List PoolEntry) : PoolSource → Prop
  | fixed : Lists entries (fixed entries)
  | file (path text : String) (read : PoolEntry.readAll? text = some entries) :
      Lists entries (file path (some text))

theorem file_of_readAll? {text : String} (read : PoolEntry.readAll? text = some entries)
    (path : String) (chain : UInt64) (platform : Platform) :
    file path (some text) chain platform =
      .ok ((select entries chain platform).filter fun p => !p.isSelfPair) := by
  simp only [file, read]

theorem Lists.gives (lists : source.Lists entries) :
    ∃ pools, source.Gives pools ∧ ∀ chain platform,
      Discovery.SamePairs (pools chain platform) (select entries chain platform) := by
  cases lists with
  | fixed =>
      refine ⟨select entries, ⟨fun _ _ => rfl, Discovery.on_select entries⟩, ?_⟩
      intro chain platform
      exact Discovery.samePairs_of_perm (List.Perm.refl _)
  | file path text read =>
      refine ⟨fun chain platform => (select entries chain platform).filter fun p => !p.isSelfPair,
        ⟨?_, ?_⟩, ?_⟩
      · exact file_of_readAll? read path
      · intro chain platform p kept
        exact Discovery.on_select entries chain platform p (List.mem_of_mem_filter kept)
      · intro chain platform
        exact Discovery.samePairs_filter_isSelfPair

theorem select_perm (reordered : entries.Perm entries') (chain : UInt64) (platform : Platform) :
    (select entries chain platform).Perm (select entries' chain platform) :=
  (reordered.filter _).map _

end PoolSource

/-! ## Prices -/

namespace Priced

variable {direction : Direction} {p q : Priced}

def openAmount : Direction → Priced → Word
  | .exactIn, p => p.amountOut
  | .exactOut, p => p.amountIn

structure Tied (direction : Direction) (p q : Priced) : Prop where
  openAmount : p.openAmount direction = q.openAmount direction
  length : p.path.length = q.path.length
  platform : p.path.platform = q.path.platform

theorem cost_eq_iff : p.cost direction = q.cost direction ↔
    p.openAmount direction = q.openAmount direction := by
  cases direction with
  | exactIn => simp [cost, openAmount, BitVec.toNat_inj]
  | exactOut => simp [cost, openAmount, BitVec.toNat_inj]

theorem tied_iff : Tied direction p q ↔ p.rank direction = q.rank direction := by
  simp only [rank, EmbeddingLike.apply_eq_iff_eq, Prod.mk.injEq, cost_eq_iff,
    Platform.idxOf_byPriority]
  constructor
  · rintro ⟨openAmount, length, platform⟩
    exact ⟨openAmount, length, congrArg Platform.priority platform⟩
  · rintro ⟨openAmount, length, priority⟩
    exact ⟨openAmount, length, Platform.priority_injective priority⟩

structure Alike (p q : Priced) : Prop where
  path : p.path.Alike q.path
  amountIn : p.amountIn = q.amountIn
  amountOut : p.amountOut = q.amountOut

theorem Alike.tied (alike : p.Alike q) (direction : Direction) : Tied direction p q := by
  refine ⟨?_, alike.path.length, alike.path.platform⟩
  cases direction with
  | exactIn => exact alike.amountOut
  | exactOut => exact alike.amountIn

end Priced

namespace Answered

variable {c c' : Answered}

structure Alike (c c' : Answered) : Prop where
  path : c.path.Alike c'.path
  answer : c.answer = c'.answer

theorem Alike.amounts? (alike : c.Alike c') : c.amounts? = c'.amounts? := by
  rw [Answered.amounts?, Answered.amounts?, alike.answer]

theorem Alike.miscounted (alike : c.Alike c') (miscounted : c.Miscounted) : c'.Miscounted := by
  obtain ⟨amounts, decoded, count⟩ := miscounted
  rw [alike.amounts?] at decoded
  rw [alike.path.length] at count
  exact ⟨amounts, decoded, count⟩

theorem Alike.price? (alike : c.Alike c') {p : Priced} (priced : c.price? = some p) :
    ∃ p', c'.price? = some p' ∧ p.Alike p' := by
  obtain ⟨amounts, decoded, first, last, positiveIn, positiveOut, samePath⟩ :=
    price?_eq_some_iff.mp priced
  rw [alike.amounts?] at decoded
  have priced' : c'.price? = some ⟨c'.path, p.amountIn, p.amountOut⟩ :=
    price?_eq_some_iff.mpr ⟨amounts, decoded, first, last, positiveIn, positiveOut, rfl⟩
  refine ⟨_, priced', ?_, rfl, rfl⟩
  rw [← samePath]
  exact alike.path

end Answered

namespace TradeRouter

variable {r : TradeRouter} {req : RouteRequest} {answer : SubCall → Option Bytes}
  {paths paths' : List TradePath} {p p' : Priced} {block : UInt64}

theorem answered_alike {path path' : TradePath} (alike : path.Alike path') :
    (r.answered req answer path).Alike (r.answered req answer path') := by
  refine ⟨alike, ?_⟩
  unfold answered QuoteCall.ofPath
  rw [alike.platform, alike.tokens]

def PricedOn (r : TradeRouter) (req : RouteRequest) (answer : SubCall → Option Bytes)
    (paths : List TradePath) (p : Priced) : Prop :=
  ∃ c ∈ paths.map (r.answered req answer), c.price? = some p

theorem PricedOn.alike (priced : r.PricedOn req answer paths p)
    (priced' : r.PricedOn req answer paths' p') (same : p.path.Alike p'.path) : p.Alike p' := by
  obtain ⟨c, member, price⟩ := priced
  obtain ⟨c', member', price'⟩ := priced'
  obtain ⟨path, _, rfl⟩ := List.mem_map.mp member
  obtain ⟨path', _, rfl⟩ := List.mem_map.mp member'
  have samePath : path = p.path := Answered.path_of_price? price
  have samePath' : path' = p'.path := Answered.path_of_price? price'
  have alike : path.Alike path' := by
    rwa [samePath, samePath']
  obtain ⟨q, found, alike⟩ := (answered_alike alike).price? price
  cases found.symm.trans price'
  exact alike

/-- Every path of the one list has a like one in the other. -/
def Mirrored (paths paths' : List TradePath) : Prop :=
  ∀ path ∈ paths, ∃ path' ∈ paths', path.Alike path'

theorem Mirrored.pricedOn (mirrored : Mirrored paths paths')
    (priced : r.PricedOn req answer paths p) :
    ∃ p', r.PricedOn req answer paths' p' ∧ p.Alike p' := by
  obtain ⟨c, member, price⟩ := priced
  obtain ⟨path, found, rfl⟩ := List.mem_map.mp member
  obtain ⟨path', found', alike⟩ := mirrored path found
  obtain ⟨p', price', same⟩ := (answered_alike alike).price? price
  exact ⟨p', ⟨_, List.mem_map_of_mem found', price'⟩, same⟩

theorem Mirrored.miscounted (mirrored : Mirrored paths paths')
    (miscounted : ∃ c ∈ paths.map (r.answered req answer), c.Miscounted) :
    ∃ c ∈ paths'.map (r.answered req answer), c.Miscounted := by
  obtain ⟨c, member, count⟩ := miscounted
  obtain ⟨path, found, rfl⟩ := List.mem_map.mp member
  obtain ⟨path', found', alike⟩ := mirrored path found
  exact ⟨_, List.mem_map_of_mem found', (answered_alike alike).miscounted count⟩

theorem Mirrored.rank_le {direction : Direction} (mirrored : Mirrored paths paths')
    (best : FirstBest direction (paths.map (r.answered req answer)) p)
    (best' : FirstBest direction (paths'.map (r.answered req answer)) p') :
    p'.rank direction ≤ p.rank direction := by
  obtain ⟨q, ⟨c, member, price⟩, alike⟩ := mirrored.pricedOn best.exists_price
  calc p'.rank direction
      ≤ q.rank direction := best'.rank_le member price
    _ = p.rank direction := (Priced.tied_iff.mp (alike.tied direction)).symm

end TradeRouter

/-! ## Runs -/

/-- How the runs for two orders of the pool list may end. Both fail in the same way, or both find a
quote. The quotes then tie, and they are for the same tokens at the same price if no other token
sequence that was offered ties with them. -/
inductive SameEnd (direction : Direction) (offered : Priced → Prop) :
    Except Failure Quote → Except Failure Quote → Prop
  | failed (e : Failure) : SameEnd direction offered (.error e) (.error e)
  | incomparable (uid : Uid) (reason reason' : String) :
      SameEnd direction offered (.error (.incomparableQuotes uid reason))
        (.error (.incomparableQuotes uid reason'))
  | quoted (q q' : Quote) (tied : Priced.Tied direction q.priced q'.priced)
      (block : q.block = q'.block)
      (only : (∀ p, offered p → Priced.Tied direction p q.priced → p.path.tokens = q.path.tokens) →
        Priced.Alike q.priced q'.priced) :
      SameEnd direction offered (.ok q) (.ok q')

namespace TradeRouter

variable {r r' : TradeRouter} {req : RouteRequest} {answer : SubCall → Option Bytes}
  {paths paths' : List TradePath} {pools pools' : UInt64 → Platform → List Pool} {s : Search}
  {source' : PoolSource} {block : UInt64}

def Offered (r : TradeRouter) (req : RouteRequest) (answer : SubCall → Option Bytes)
    (p : Priced) : Prop :=
  ∃ plan, r.plan req = .ok plan ∧ r.PricedOn req answer plan.paths p

theorem sameEnd_of_concluded {offered : Priced → Prop} {result result' : Except Failure Quote}
    (all : ∀ p, r.PricedOn req answer paths p → offered p)
    (mirrored : Mirrored paths paths') (mirrored' : Mirrored paths' paths)
    (concluded : Concluded req (paths.map (r.answered req answer)) block result)
    (concluded' : Concluded req (paths'.map (r.answered req answer)) block result') :
    SameEnd req.direction offered result result' := by
  -- A miscounted answer or a price on the one side has its like on the other, so the runs cannot
  -- end in different ways.
  cases concluded with
  | incomparable reason miscounted =>
      obtain ⟨c, member, count⟩ := mirrored.miscounted miscounted
      cases concluded' with
      | incomparable reason' _ => exact .incomparable req.uid reason reason'
      | unpriced fits => exact absurd count (fits c member)
      | priced _ fits => exact absurd count (fits c member)
  | unpriced fits nothing =>
      cases concluded' with
      | incomparable _ miscounted =>
          obtain ⟨c, member, count⟩ := mirrored'.miscounted miscounted
          exact absurd count (fits c member)
      | unpriced => exact .failed (noPath req)
      | priced _ _ _ best =>
          obtain ⟨_, ⟨c, member, price⟩, _⟩ := mirrored'.pricedOn best.exists_price
          exact absurd (nothing c member) (by simp [price])
  | priced q fits sameBlock best =>
      cases concluded' with
      | incomparable _ miscounted =>
          obtain ⟨c, member, count⟩ := mirrored'.miscounted miscounted
          exact absurd count (fits c member)
      | unpriced _ nothing =>
          obtain ⟨_, ⟨c, member, price⟩, _⟩ := mirrored.pricedOn best.exists_price
          exact absurd (nothing c member) (by simp [price])
      | priced q' _ sameBlock' best' =>
          have equal : q.priced.rank req.direction = q'.priced.rank req.direction :=
            le_antisymm (mirrored'.rank_le best' best) (mirrored.rank_le best best')
          have tied := Priced.tied_iff.mpr equal
          refine .quoted q q' tied (sameBlock.trans sameBlock'.symm) ?_
          intro only
          obtain ⟨p, priced, alike⟩ := mirrored'.pricedOn best'.exists_price
          have ties : Priced.Tied req.direction p q.priced :=
            Priced.tied_iff.mpr ((Priced.tied_iff.mp (alike.tied req.direction)).symm.trans
              equal.symm)
          have tokens : q.path.tokens = q'.path.tokens :=
            (only p (all p priced) ties).symm.trans alike.path.tokens.symm
          exact PricedOn.alike best.exists_price best'.exists_price ⟨tied.platform, tokens⟩

theorem mirrored_pathsOver {source source' : PoolSource} (gives : source.Gives pools)
    (gives' : source'.Gives pools')
    (same : ∀ chain platform, Discovery.SamePairs (pools chain platform) (pools' chain platform))
    (distinct : s.start ≠ s.finish) (chain : UInt64) :
    Mirrored (pathsOver pools chain s) (pathsOver pools' chain s) := by
  intro path member
  obtain ⟨platform, searched, found⟩ := List.mem_flatMap.mp member
  obtain ⟨path', found', alike⟩ := Discovery.exists_alike (gives.on chain platform)
    (gives'.on chain platform) (same chain platform) distinct found
  exact ⟨path', List.mem_flatMap.mpr ⟨platform, searched, found'⟩, alike⟩

theorem Mirrored.eq_nil (mirrored : Mirrored paths' paths) (none : paths = []) : paths' = [] := by
  apply List.eq_nil_iff_forall_not_mem.mpr
  intro path' member
  obtain ⟨path, found, _⟩ := mirrored path' member
  rw [none] at found
  exact nomatch found

/-- A run depends on which pairs of tokens are listed on which platform, and on nothing else of the
pool list. -/
theorem sameEnd_of_samePairs (gives : r.source.Gives pools) (gives' : r'.source.Gives pools')
    (same : ∀ chain platform, Discovery.SamePairs (pools chain platform) (pools' chain platform))
    (sameSearch : r'.search req = r.search req)
    (sameAsked : r'.answered req answer = r.answered req answer)
    (answers : r.Answers req block answer) (answers' : r'.Answers req block answer) :
    SameEnd req.direction (r.Offered req answer) (r.route req).result (r'.route req).result := by
  cases sought : r.search req with
  | error e =>
      have sought' := sameSearch.trans sought
      rw [route_of_plan_error (plan_of_search_error sought),
        route_of_plan_error (plan_of_search_error sought')]
      exact .failed e
  | ok s =>
      have sought' := sameSearch.trans sought
      have distinct := (search_eq_ok sought).1
      have mirrored := mirrored_pathsOver gives gives' same distinct req.chain
      have mirrored' := mirrored_pathsOver gives' gives
        (fun chain platform => (same chain platform).symm) distinct req.chain
      by_cases none : pathsOver pools req.chain s = []
      · have none' := mirrored'.eq_nil none
        rw [route_of_plan_error (plan_of_no_paths gives sought none),
          route_of_plan_error (plan_of_no_paths gives' sought' none')]
        exact .failed (noPath req)
      · have nonempty' : pathsOver pools' req.chain s ≠ [] := fun none' =>
          none (mirrored.eq_nil none')
        obtain ⟨subCalls, planned⟩ := plan_of_paths gives sought none
        have concluded' := answers'.concluded gives' sought' nonempty'
        rw [sameAsked] at concluded'
        exact sameEnd_of_concluded (fun p priced => ⟨_, planned, priced⟩) mirrored mirrored'
          (answers.concluded gives sought none) concluded'

theorem search_source (r : TradeRouter) (source : PoolSource) (req : RouteRequest) :
    { r with source := source }.search req = r.search req := by
  have resolve : { r with source := source }.resolve = r.resolve := by
    funext symbol id uid
    unfold TradeRouter.resolve
    dsimp only
  have platforms : { r with source := source }.platforms = r.platforms := by
    funext req
    unfold TradeRouter.platforms
    dsimp only
  unfold search
  rw [resolve, platforms]

/-- Routing does not depend on the order of the pool list: on a chain that can be read and answers
each sub-call by what it says, two runs over the same pools in different orders end the same way. -/
theorem sameEnd_of_perm {entries entries' : List PoolEntry} (reordered : entries.Perm entries')
    (lists : r.source.Lists entries) (lists' : source'.Lists entries')
    (answers : r.Answers req block answer)
    (answers' : { r with source := source' }.Answers req block answer) :
    SameEnd req.direction (r.Offered req answer) (r.route req).result
      ({ r with source := source' }.route req).result := by
  obtain ⟨pools, gives, same⟩ := lists.gives
  obtain ⟨pools', gives', same'⟩ := lists'.gives
  refine sameEnd_of_samePairs gives gives' ?_ (search_source r source' req) rfl answers answers'
  intro chain platform
  have between := Discovery.samePairs_of_perm (PoolSource.select_perm reordered chain platform)
  exact (same chain platform).trans (between.trans (same' chain platform).symm)

/-- With the list reversed the path goes through the other pool of its first pair. -/
theorem sameEnd_of_perm_reversed :
    ∃ q q' : Quote, q.path ≠ q'.path ∧
      (Sample.exchange.route Sample.request).result = .ok q ∧
      ({ Sample.exchange with source := PoolSource.fixed Sample.pools.reverse }.route
        Sample.request).result = .ok q' ∧
      SameEnd .exactIn (Sample.exchange.Offered Sample.request Sample.answer) (.ok q)
        (.ok q') := by
  let reversed : TradeRouter :=
    { Sample.exchange with source := PoolSource.fixed Sample.pools.reverse }
  have planned : Sample.exchange.plan Sample.request = .ok (Sample.planThrough 81) := by
    decide +kernel
  have planned' : reversed.plan Sample.request = .ok (Sample.planThrough 85) := by
    decide +kernel
  have answers : Sample.exchange.Answers Sample.request 7 Sample.answer := by
    refine ⟨rfl, ?_⟩
    intro plan found
    cases planned.symm.trans found
    decide +kernel
  have answers' : reversed.Answers Sample.request 7 Sample.answer := by
    refine ⟨rfl, ?_⟩
    intro plan found
    cases planned'.symm.trans found
    decide +kernel
  have routed : (Sample.exchange.route Sample.request).result =
      .ok ⟨Sample.through 81, 10, 30, 7⟩ := by
    decide +kernel
  have routed' : (reversed.route Sample.request).result =
      .ok ⟨Sample.through 85, 10, 30, 7⟩ := by
    decide +kernel
  have same := sameEnd_of_perm Sample.pools.reverse_perm.symm .fixed .fixed answers answers'
  rw [routed, routed'] at same
  exact ⟨_, _, by decide, routed, routed', same⟩

end TradeRouter

end SwapDesk
