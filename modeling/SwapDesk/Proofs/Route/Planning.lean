import SwapDesk.Proofs.Route.Candidates
import SwapDesk.Proofs.Route.Optimality

/-!
What a run takes from where. The tokens, the amount and the routers decide what is searched for,
and the listed pools only which paths are found; every path that is found is asked about. On a
chain that answers each sub-call by what it says, the answer for a path depends on its platform and
its tokens alone.
-/

namespace SwapDesk

/-- The source can be read, and what it lists for a platform is on that platform. -/
structure PoolSource.Gives (source : PoolSource) (pools : UInt64 → Platform → List Pool) :
    Prop where
  read : ∀ chain platform, source chain platform = .ok (pools chain platform)
  on : ∀ chain platform, Discovery.On platform (pools chain platform)

namespace TradeRouter

structure Search where
  start : Address
  finish : Address
  platforms : List Platform

def search (r : TradeRouter) (req : RouteRequest) : Except Failure Search := do
  let tokenIn ← r.resolve req.tokenIn req.chain req.uid
  let tokenOut ← r.resolve req.tokenOut req.chain req.uid
  if req.amount = 0 then .error (.amount (.notPositive req.uid))
  else if tokenIn.address = tokenOut.address then .error (noPath req)
  else do
    let platforms ← r.platforms req
    return ⟨tokenIn.address, tokenOut.address, platforms⟩

def pathsOver (pools : UInt64 → Platform → List Pool) (chain : UInt64) (s : Search) :
    List TradePath :=
  s.platforms.flatMap fun p => Discovery.paths (pools chain p) s.start s.finish

def planOver (r : TradeRouter) (req : RouteRequest) (paths : List TradePath) :
    Except Failure Plan :=
  if paths.isEmpty then .error (noPath req)
  else do
    let subCalls ← paths.mapM (r.subCall req)
    return ⟨paths, subCalls⟩

def answered (r : TradeRouter) (req : RouteRequest) (answer : SubCall → Option Bytes)
    (path : TradePath) : Answered :=
  ⟨path, (r.routers.get? path.platform).bind fun router =>
    answer ⟨router, QuoteCall.ofPath path req.amount req.direction⟩⟩

/-- The chain can be read for the request. It names the block, and it answers every sub-call by
what the sub-call says. -/
structure Answers (r : TradeRouter) (req : RouteRequest) (block : UInt64)
    (answer : SubCall → Option Bytes) : Prop where
  head : r.chain.head 0 = .ok block
  read : ∀ plan, r.plan req = .ok plan →
    (BatchRead.run r.chain r.batch plan.subCalls block req.uid).result =
      .ok (plan.subCalls.map answer)

variable {r : TradeRouter} {req : RouteRequest} {pools : UInt64 → Platform → List Pool}
  {s : Search} {block : UInt64} {answer : SubCall → Option Bytes}

theorem mapM_candidates (gives : r.source.Gives pools) (platforms : List Platform)
    (a b : Address) (chain : UInt64) :
    platforms.mapM (fun p => Discovery.candidates r.source a b p chain) =
      .ok (platforms.map fun p => Discovery.paths (pools chain p) a b) := by
  apply Checked.mapM_eq_ok_iff.mpr
  rw [List.forall₂_map_right_iff, List.forall₂_same]
  intro p _
  rw [Discovery.candidates, gives.read]
  rfl

theorem plan_eq_search (r : TradeRouter) (req : RouteRequest) :
    r.plan req = r.search req >>= fun s =>
      (s.platforms.mapM fun p => Discovery.candidates r.source s.start s.finish p req.chain) >>=
        fun found => r.planOver req found.flatten := by
  unfold TradeRouter.plan search
  cases r.resolve req.tokenIn req.chain req.uid with
  | error e => rfl
  | ok tokenIn =>
      cases r.resolve req.tokenOut req.chain req.uid with
      | error e => rfl
      | ok tokenOut =>
          simp only [bind, Except.bind]
          split
          · rfl
          split
          · rfl
          cases r.platforms req with
          | error e => rfl
          | ok platforms => rfl

theorem plan_eq (gives : r.source.Gives pools) :
    r.plan req = r.search req >>= fun s => r.planOver req (pathsOver pools req.chain s) := by
  rw [plan_eq_search]
  simp only [mapM_candidates gives]
  rfl

theorem routed_of_platforms {platforms : List Platform}
    (searched : r.platforms req = .ok platforms) :
    ∀ p ∈ platforms, ∃ router, r.routers.get? p = some router := by
  intro p member
  rcases platforms_eq_ok_iff.mp searched with ⟨_, rfl⟩ | ⟨_, router, _, routed, rfl⟩
  · exact Option.isSome_iff_exists.mp (Routers.mem_platforms.mp member)
  · cases List.mem_singleton.mp member
    exact ⟨router, routed⟩

theorem search_eq_ok (sought : r.search req = .ok s) :
    s.start ≠ s.finish ∧ r.platforms req = .ok s.platforms := by
  unfold search at sought
  obtain ⟨tokenIn, _, sought⟩ := Checked.bind_eq_ok_iff.mp sought
  obtain ⟨tokenOut, _, sought⟩ := Checked.bind_eq_ok_iff.mp sought
  split at sought
  · exact nomatch sought
  split at sought
  · exact nomatch sought
  rename_i distinct
  obtain ⟨platforms, searched, sought⟩ := Checked.bind_eq_ok_iff.mp sought
  cases sought
  exact ⟨distinct, searched⟩

theorem routed_of_mem_pathsOver (gives : r.source.Gives pools)
    (sought : r.search req = .ok s) {path : TradePath}
    (member : path ∈ pathsOver pools req.chain s) :
    ∃ router, r.routers.get? path.platform = some router := by
  obtain ⟨p, searched, found⟩ := List.mem_flatMap.mp member
  rw [Discovery.platform_of_mem_paths (gives.on req.chain p) found]
  exact routed_of_platforms (search_eq_ok sought).2 p searched

theorem plan_of_search_error {e : Failure} (failed : r.search req = .error e) :
    r.plan req = .error e := by
  rw [plan_eq_search, failed]
  rfl

theorem plan_of_no_paths (gives : r.source.Gives pools) (sought : r.search req = .ok s)
    (none : pathsOver pools req.chain s = []) : r.plan req = .error (noPath req) := by
  rw [plan_eq gives, sought]
  change r.planOver req (pathsOver pools req.chain s) = _
  rw [none]
  rfl

theorem plan_of_paths (gives : r.source.Gives pools) (sought : r.search req = .ok s)
    (nonempty : pathsOver pools req.chain s ≠ []) :
    ∃ subCalls, r.plan req = .ok ⟨pathsOver pools req.chain s, subCalls⟩ := by
  have callable : ∀ path ∈ pathsOver pools req.chain s, ∃ call, r.subCall req path = .ok call := by
    intro path member
    obtain ⟨router, routed⟩ := routed_of_mem_pathsOver gives sought member
    exact ⟨_, subCall_of_routed routed⟩
  obtain ⟨subCalls, encoded⟩ := Checked.exists_mapM_eq_ok callable
  refine ⟨subCalls, ?_⟩
  rw [plan_eq gives, sought]
  change r.planOver req (pathsOver pools req.chain s) = _
  rw [planOver, if_neg (by simpa using nonempty), encoded]
  rfl

theorem zip_answers {plan : Plan} (planned : r.plan req = .ok plan) :
    Answered.zip plan.paths (plan.subCalls.map answer) =
      plan.paths.map (r.answered req answer) := by
  obtain ⟨_, _, _, _, made⟩ := planned_of_plan planned
  have encoded := made.encoded
  generalize plan.paths = paths, plan.subCalls = subCalls at encoded ⊢
  induction encoded with
  | nil => rfl
  | @cons path call paths subCalls asked _ ih =>
      have same : Answered.mk path (answer call) = r.answered req answer path := by
        obtain ⟨routed, data⟩ := subCall_eq_ok_iff.mp asked
        rw [answered, routed, Option.bind_some, ← data]
      rw [List.map_cons, Answered.zip_cons, same, ih, List.map_cons]

theorem Answers.concluded (answers : r.Answers req block answer)
    (gives : r.source.Gives pools) (sought : r.search req = .ok s)
    (nonempty : pathsOver pools req.chain s ≠ []) :
    Concluded req ((pathsOver pools req.chain s).map (r.answered req answer)) block
      (r.route req).result := by
  obtain ⟨subCalls, planned⟩ := plan_of_paths gives sought nonempty
  rw [← zip_answers planned]
  exact Reads.concluded ⟨planned, answers.head, answers.read _ planned⟩

theorem route_of_plan_error {e : Failure} (failed : r.plan req = .error e) :
    (r.route req).result = .error e := by
  unfold route
  simp only [failed]

end TradeRouter

end SwapDesk
