import SwapDesk.Proofs.Chain.BatchReply
import SwapDesk.Proofs.Route.Pricing
import SwapDesk.Proofs.Sample

namespace SwapDesk

namespace TradeRouter

structure Planned (r : TradeRouter) (req : RouteRequest) (plan : Plan) (tokenIn tokenOut : Token)
    (platforms : List Platform) (found : List (List TradePath)) : Prop where
  resolvedIn : r.resolve req.tokenIn req.chain req.uid = .ok tokenIn
  resolvedOut : r.resolve req.tokenOut req.chain req.uid = .ok tokenOut
  positive : req.amount ≠ 0
  distinct : tokenIn.address ≠ tokenOut.address
  searched : r.platforms req = .ok platforms
  listed : List.Forall₂ (fun p paths => Discovery.candidates r.source tokenIn.address
    tokenOut.address p req.chain = .ok paths) platforms found
  flattened : plan.paths = found.flatten
  nonempty : plan.paths ≠ []
  encoded : List.Forall₂ (fun path call => r.subCall req path = .ok call) plan.paths plan.subCalls

theorem platforms_eq_ok_iff {r : TradeRouter} {req : RouteRequest} {platforms : List Platform} :
    r.platforms req = .ok platforms ↔
      req.platform = none ∧ platforms = r.routers.platforms ∨
        ∃ p router, req.platform = some p ∧ r.routers.get? p = some router ∧ platforms = [p] := by
  unfold TradeRouter.platforms
  cases req.platform with
  | none => simp [eq_comm]
  | some p =>
      cases routed : r.routers.get? p with
      | none => simp [routed]
      | some router => simp [routed, eq_comm]

theorem subCall_eq_ok_iff {r : TradeRouter} {req : RouteRequest} {path : TradePath}
    {call : SubCall} : r.subCall req path = .ok call ↔
      r.routers.get? path.platform = some call.target ∧
        call.data = QuoteCall.ofPath path req.amount req.direction := by
  unfold TradeRouter.subCall
  cases r.routers.get? path.platform with
  | none => simp
  | some router =>
      obtain ⟨target, data⟩ := call
      simp [eq_comm]

theorem subCall_of_routed {r : TradeRouter} {req : RouteRequest} {path : TradePath}
    {router : Address} (routed : r.routers.get? path.platform = some router) :
    r.subCall req path = .ok ⟨router, QuoteCall.ofPath path req.amount req.direction⟩ :=
  subCall_eq_ok_iff.mpr ⟨routed, rfl⟩

theorem plan_chain (r : TradeRouter) (chain : Chain) (req : RouteRequest) :
    { r with chain := chain }.plan req = r.plan req := by
  have resolve : { r with chain := chain }.resolve = r.resolve := by
    funext symbol id uid
    unfold TradeRouter.resolve
    dsimp only
  have platforms : { r with chain := chain }.platforms = r.platforms := by
    funext req
    unfold TradeRouter.platforms
    dsimp only
  have subCall : { r with chain := chain }.subCall = r.subCall := by
    funext req path
    unfold TradeRouter.subCall
    dsimp only
  unfold TradeRouter.plan
  rw [resolve, platforms, subCall]

theorem planned_of_plan {r : TradeRouter} {req : RouteRequest} {plan : Plan}
    (planned : r.plan req = .ok plan) :
    ∃ tokenIn tokenOut platforms found,
      r.Planned req plan tokenIn tokenOut platforms found := by
  unfold TradeRouter.plan at planned
  obtain ⟨tokenIn, resolvedIn, planned⟩ := Checked.bind_eq_ok_iff.mp planned
  obtain ⟨tokenOut, resolvedOut, planned⟩ := Checked.bind_eq_ok_iff.mp planned
  split at planned
  · exact nomatch planned
  rename_i positive
  split at planned
  · exact nomatch planned
  rename_i distinct
  obtain ⟨platforms, searched, planned⟩ := Checked.bind_eq_ok_iff.mp planned
  obtain ⟨found, listed, planned⟩ := Checked.bind_eq_ok_iff.mp planned
  dsimp only at planned
  split at planned
  · exact nomatch planned
  rename_i nonempty
  obtain ⟨subCalls, encoded, planned⟩ := Checked.bind_eq_ok_iff.mp planned
  cases planned
  exact ⟨tokenIn, tokenOut, platforms, found, {
    resolvedIn := resolvedIn
    resolvedOut := resolvedOut
    positive := positive
    distinct := distinct
    searched := searched
    listed := Checked.mapM_eq_ok_iff.mp listed
    flattened := rfl
    nonempty := fun empty => nonempty (by rw [List.isEmpty_iff]; exact empty)
    encoded := Checked.mapM_eq_ok_iff.mp encoded }⟩

theorem Planned.subCalls_ne_nil {r : TradeRouter} {req : RouteRequest} {plan : Plan}
    {tokenIn tokenOut : Token} {platforms : List Platform} {found : List (List TradePath)}
    (made : r.Planned req plan tokenIn tokenOut platforms found) : plan.subCalls ≠ [] := by
  intro none
  have encoded := made.encoded
  rw [none] at encoded
  exact made.nonempty (List.forall₂_nil_right_iff.mp encoded)

/-- A request that gets as far as pricing: its plan, the block of the readings, and the answers
to its sub-calls. -/
structure Reads (r : TradeRouter) (req : RouteRequest) (plan : Plan) (block : UInt64)
    (answers : List (Option Bytes)) : Prop where
  planned : r.plan req = .ok plan
  head : r.chain.head 0 = .ok block
  answered : (BatchRead.run r.chain r.batch plan.subCalls block req.uid).result = .ok answers

theorem Reads.route_result {r : TradeRouter} {req : RouteRequest} {plan : Plan} {block : UInt64}
    {answers : List (Option Bytes)} (reads : r.Reads req plan block answers) :
    (r.route req).result = conclude req plan.paths block answers := by
  unfold route
  simp only [reads.planned, reads.head, reads.answered]
  rfl

theorem Reads.zip_paths {r : TradeRouter} {req : RouteRequest} {plan : Plan} {block : UInt64}
    {answers : List (Option Bytes)} (reads : r.Reads req plan block answers) :
    (Answered.zip plan.paths answers).map Answered.path = plan.paths := by
  obtain ⟨_, _, _, _, planned⟩ := planned_of_plan reads.planned
  have counted : plan.paths.length = answers.length :=
    planned.encoded.length_eq.trans (BatchRead.length_of_run reads.answered).symm
  exact Answered.map_path_zip counted

theorem reads_of_route_ok {r : TradeRouter} {req : RouteRequest} {quote : Quote}
    (routed : (r.route req).result = .ok quote) :
    ∃ plan block answers, r.Reads req plan block answers := by
  unfold route at routed
  split at routed
  · exact nomatch routed
  · rename_i plan planned
    split at routed
    · exact nomatch routed
    · rename_i block head
      obtain ⟨answers, answered, _⟩ := Checked.bind_eq_ok_iff.mp routed
      exact ⟨plan, block, answers, planned, head, answered⟩

deriving instance DecidableEq for Plan

end TradeRouter

namespace Sample

theorem planned (results : List SubResult) : (market results).plan request = .ok plan := by
  have sameMarket : { market [] with chain := (market results).chain } = market results := rfl
  rw [← sameMarket, TradeRouter.plan_chain]
  decide +kernel

end Sample

end SwapDesk
