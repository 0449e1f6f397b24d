import SwapDesk.Endpoint.Client
import SwapDesk.Proofs.Route.Planning
import SwapDesk.Proofs.Route.Traffic

namespace SwapDesk

theorem PoolSource.uid_of_file_error {path : String} {content : Option String} {chain : UInt64}
    {platform : Platform} {e : Failure} (unread : file path content chain platform = .error e) :
    e.uid? = none := by
  unfold file at unread
  split at unread
  · cases unread
    rfl
  · split at unread
    · cases unread
      rfl
    · exact nomatch unread

theorem RpcClient.uid_of_ask_error {α : Type} {c : RpcClient} {request : RpcRequest}
    {before : Nat} {decode : Json → Option α} {e : Failure}
    (unread : c.ask request before decode = .error e) : e.uid? = none := by
  unfold ask at unread
  split at unread
  · exact nomatch unread
  · cases unread
    rfl

theorem BatchRead.uid_of_run_error {chain : Chain} {contract : Address} {calls : List SubCall}
    {block : UInt64} {uid : Uid} {e : Failure}
    (failed : (run chain contract calls block uid).result = .error e) : e.uid? = some uid := by
  unfold run at failed
  split at failed
  · exact nomatch failed
  · obtain ⟨fault, _, rfl⟩ := Checked.mapError_eq_error_iff.mp failed
    rfl

theorem Discovery.candidates_eq_error_iff {source : PoolSource} {a b : Address} {p : Platform}
    {chain : UInt64} {e : Failure} :
    candidates source a b p chain = .error e ↔ source chain p = .error e :=
  Checked.map_eq_error_iff

theorem Discovery.exists_candidates_iff {source : PoolSource} {a b : Address} {p : Platform}
    {chain : UInt64} :
    (∃ paths, candidates source a b p chain = .ok paths) ↔
      ∃ pools, source chain p = .ok pools := by
  constructor
  · rintro ⟨_, found⟩
    obtain ⟨pools, read, _⟩ := Checked.map_eq_ok_iff.mp found
    exact ⟨pools, read⟩
  · rintro ⟨pools, read⟩
    exact ⟨_, Checked.map_eq_ok_iff.mpr ⟨pools, read, rfl⟩⟩

namespace TradeRouter

variable {r : TradeRouter} {req : RouteRequest} {e : Failure}

/-- The failures that reach the caller without the uid of the request. -/
inductive Untraced (r : TradeRouter) (req : RouteRequest) : Failure → Prop
  | zeroAmount {tokenIn tokenOut : Token}
      (resolvedIn : r.tokens.resolve? req.tokenIn req.chain = some tokenIn)
      (resolvedOut : r.tokens.resolve? req.tokenOut req.chain = some tokenOut)
      (zero : req.amount = 0) :
      Untraced r req (.amount (.notPositive req.uid))
  | unlisted {s : Search} {before : List Platform} {p : Platform} {after : List Platform}
      {e : Failure} (sought : r.search req = .ok s) (order : s.platforms = before ++ p :: after)
      (listed : ∀ other ∈ before, ∃ pools, r.source req.chain other = .ok pools)
      (unread : r.source req.chain p = .error e) : Untraced r req e
  | noBlock {plan : Plan} {e : Failure} (planned : r.plan req = .ok plan)
      (unread : r.chain.head 0 = .error e) : Untraced r req e

theorem uid_of_resolve_error {symbol : String} {chain : UInt64} {uid : Uid}
    (failed : r.resolve symbol chain uid = .error e) : e.uid? = some uid := by
  unfold TradeRouter.resolve at failed
  cases known : r.tokens.resolve? symbol chain with
  | none =>
      rw [known] at failed
      cases failed
      rfl
  | some token =>
      rw [known] at failed
      exact nomatch failed

theorem uid_of_platforms_error (failed : r.platforms req = .error e) :
    e.uid? = some req.uid := by
  unfold TradeRouter.platforms at failed
  split at failed
  · exact nomatch failed
  · split at failed
    · exact nomatch failed
    · cases failed
      rfl

theorem uid_of_subCall_error {path : TradePath} (failed : r.subCall req path = .error e) :
    e.uid? = some req.uid := by
  unfold TradeRouter.subCall at failed
  split at failed
  · exact nomatch failed
  · cases failed
    rfl

theorem uid_of_planOver_error {paths : List TradePath}
    (failed : r.planOver req paths = .error e) : e.uid? = some req.uid := by
  unfold planOver at failed
  split at failed
  · cases failed
    rfl
  · rcases Checked.bind_eq_error_iff.mp failed with uncalled | ⟨_, _, whole⟩
    · obtain ⟨_, _, _, _, _, unrouted⟩ := Checked.mapM_eq_error_iff.mp uncalled
      exact uid_of_subCall_error unrouted
    · exact nomatch whole

theorem uid_of_conclude_error {paths : List TradePath} {block : UInt64}
    {answers : List (Option Bytes)} (failed : conclude req paths block answers = .error e) :
    e.uid? = some req.uid := by
  unfold conclude at failed
  split at failed
  · cases failed
    rfl
  · split at failed
    · cases failed
      rfl
    · exact nomatch failed

theorem traced_of_search_error (failed : r.search req = .error e) :
    e.uid? = some req.uid ∨ Untraced r req e := by
  unfold search at failed
  rcases Checked.bind_eq_error_iff.mp failed with unknown | ⟨tokenIn, resolvedIn, failed⟩
  · exact .inl (uid_of_resolve_error unknown)
  rcases Checked.bind_eq_error_iff.mp failed with unknown | ⟨tokenOut, resolvedOut, failed⟩
  · exact .inl (uid_of_resolve_error unknown)
  split at failed
  · rename_i zero
    cases failed
    exact .inr (.zeroAmount (resolve_eq_ok_iff.mp resolvedIn) (resolve_eq_ok_iff.mp resolvedOut) zero)
  split at failed
  · cases failed
    exact .inl rfl
  rcases Checked.bind_eq_error_iff.mp failed with unrouted | ⟨_, _, whole⟩
  · exact .inl (uid_of_platforms_error unrouted)
  · exact nomatch whole

theorem traced_of_plan_error (failed : r.plan req = .error e) :
    e.uid? = some req.uid ∨ Untraced r req e := by
  rw [plan_eq_search] at failed
  rcases Checked.bind_eq_error_iff.mp failed with unsought | ⟨s, sought, failed⟩
  · exact traced_of_search_error unsought
  rcases Checked.bind_eq_error_iff.mp failed with unlisted | ⟨found, _, failed⟩
  · obtain ⟨before, p, after, order, listed, unread⟩ := Checked.mapM_eq_error_iff.mp unlisted
    refine .inr (.unlisted sought order ?_ (Discovery.candidates_eq_error_iff.mp unread))
    exact fun other member => Discovery.exists_candidates_iff.mp (listed other member)
  · exact .inl (uid_of_planOver_error failed)

theorem traced_of_route_error (failed : (r.route req).result = .error e) :
    e.uid? = some req.uid ∨ Untraced r req e := by
  unfold route at failed
  split at failed
  · rename_i unplanned
    cases failed
    exact traced_of_plan_error unplanned
  · rename_i plan planned
    split at failed
    · rename_i unread
      cases failed
      exact .inr (.noBlock planned unread)
    · rcases Checked.bind_eq_error_iff.mp failed with unanswered | ⟨answers, _, failed⟩
      · exact .inl (BatchRead.uid_of_run_error unanswered)
      · exact .inl (uid_of_conclude_error failed)

theorem search_of_zero_amount {tokenIn tokenOut : Token}
    (resolvedIn : r.tokens.resolve? req.tokenIn req.chain = some tokenIn)
    (resolvedOut : r.tokens.resolve? req.tokenOut req.chain = some tokenOut)
    (zero : req.amount = 0) : r.search req = .error (.amount (.notPositive req.uid)) := by
  unfold search
  rw [resolve_eq_ok_iff.mpr resolvedIn, resolve_eq_ok_iff.mpr resolvedOut]
  simp only [bind, Except.bind, zero, if_true]

theorem route_of_head_error {plan : Plan} (planned : r.plan req = .ok plan)
    (unread : r.chain.head 0 = .error e) : (r.route req).result = .error e := by
  unfold route
  simp only [planned, unread]

theorem Untraced.route_result (untraced : Untraced r req e) :
    (r.route req).result = .error e := by
  cases untraced with
  | zeroAmount resolvedIn resolvedOut zero =>
      apply route_of_plan_error
      exact plan_of_search_error (search_of_zero_amount resolvedIn resolvedOut zero)
  | unlisted sought order listed unread =>
      apply route_of_plan_error
      rw [plan_eq_search]
      refine Checked.bind_eq_error_iff.mpr (.inr ⟨_, sought, ?_⟩)
      refine Checked.bind_eq_error_iff.mpr (.inl (Checked.mapM_eq_error_iff.mpr ?_))
      refine ⟨_, _, _, order, ?_, Discovery.candidates_eq_error_iff.mpr unread⟩
      exact fun other member => Discovery.exists_candidates_iff.mpr (listed other member)
  | noBlock planned unread => exact route_of_head_error planned unread

theorem Untraced.uid_eq_none {path : String} {content : Option String} {c : RpcClient}
    (pools : r.source = PoolSource.file path content) (endpoint : r.chain = c.chain)
    (untraced : Untraced r req e) : e.uid? = none := by
  cases untraced with
  | zeroAmount => rfl
  | unlisted _ _ _ unread =>
      rw [pools] at unread
      exact PoolSource.uid_of_file_error unread
  | noBlock _ unread =>
      rw [endpoint] at unread
      exact RpcClient.uid_of_ask_error unread

/-- A request that fails tells its uid, or fails for one of three causes, each of which does make
it fail. Over a pool file and an endpoint it tells its uid exactly when it fails for no such
cause. -/
theorem uid_of_route_error (r : TradeRouter) (req : RouteRequest) :
    (∀ e, (r.route req).result = .error e → e.uid? = some req.uid ∨ Untraced r req e) ∧
    (∀ e, Untraced r req e → (r.route req).result = .error e) ∧
    ∀ path content (c : RpcClient), r.source = PoolSource.file path content → r.chain = c.chain →
      ∀ e, (r.route req).result = .error e →
        (e.uid? = some req.uid ↔ ¬ Untraced r req e) := by
  refine ⟨fun e => traced_of_route_error, fun e untraced => untraced.route_result, ?_⟩
  intro path content c pools endpoint e failed
  constructor
  · intro traced untraced
    exact nomatch traced.symm.trans (untraced.uid_eq_none pools endpoint)
  · exact (traced_of_route_error failed).resolve_right

end TradeRouter

namespace Sample

def headless : TradeRouter :=
  let usual := market []
  { usual with
    chain := { usual.chain with head := fun _ => .error (RpcClient.failed "eth_blockNumber") } }

theorem headless_planned : headless.plan request = .ok plan :=
  (TradeRouter.plan_chain (market []) headless.chain request).trans (planned [])

end Sample

namespace TradeRouter

theorem exists_route_error_without_uid :
    ¬ ∀ (r : TradeRouter) (req : RouteRequest) (e : Failure),
      (r.route req).result = .error e → e.uid? = some req.uid := by
  intro traced
  have failed : (Sample.headless.route Sample.request).result =
      .error (RpcClient.failed "eth_blockNumber") :=
    route_of_head_error Sample.headless_planned rfl
  exact nomatch traced _ _ _ failed

end TradeRouter

end SwapDesk
