import SwapDesk.Endpoint.Client

namespace SwapDesk

namespace Dialogue

variable {α β : Type}

def after (made : List RpcRequest) (d : Dialogue α) : Option α × List RpcRequest :=
  (OptionT.run d).run made

theorem after_ask (endpoint : Endpoint) (request : RpcRequest) (decode : Json → Option α)
    (made : List RpcRequest) :
    (ask endpoint request decode).after made =
      (RpcClient.read? decode (endpoint request made.length), made ++ [request]) := by
  have noted : StateT.run (OptionT.run (modifyGet fun made => (made.length, made ++ [request]) :
      Dialogue Nat)) made = pure (some made.length, made ++ [request]) := rfl
  unfold ask after
  rw [OptionT.run_bind, Option.elimM, StateT.run_bind, noted, pure_bind]
  dsimp only [Option.elim]
  cases endpoint request made.length with
  | result value => rfl
  | failure => rfl

theorem after_bind (d : Dialogue α) (next : α → Dialogue β) (made : List RpcRequest) :
    (d >>= next).after made =
      match d.after made with
      | (some x, made) => (next x).after made
      | (none, made) => (none, made) := by
  unfold after
  rw [OptionT.run_bind, Option.elimM, StateT.run_bind]
  rcases (OptionT.run d).run made with ⟨x, made'⟩
  cases x with
  | none => rfl
  | some x => rfl

end Dialogue

namespace RpcRequest

/-- The methods that take in a transaction. -/
def submitting : List String := ["eth_sendRawTransaction", "eth_sendTransaction"]

/-- The methods that take in a transaction or get one ready. -/
def committing : List String := ["eth_estimateGas", "eth_getTransactionCount"] ++ submitting

def submits (r : RpcRequest) : Bool := submitting.contains r.method

def commits (r : RpcRequest) : Bool := committing.contains r.method

end RpcRequest

namespace ChainCall

def reads : ChainCall → Bool
  | head | call .. | receipt _ => true
  | estimateGas _ | pendingNonce _ | gasPrice | broadcast _ => false

def isBroadcast : ChainCall → Bool
  | broadcast _ => true
  | _ => false

end ChainCall

structure Transaction.Filled (t : Transaction) : Prop where
  gas : t.gas.isSome
  gasPrice : t.gasPrice.isSome
  nonce : t.nonce.isSome

theorem Submission.priced_of_filled {s : Submission} (filled : s.transaction.Filled) :
    s.priced = pure (s.transaction, none) := by
  obtain ⟨gas, hasGas⟩ := Option.isSome_iff_exists.mp filled.gas
  obtain ⟨price, hasPrice⟩ := Option.isSome_iff_exists.mp filled.gasPrice
  simp only [priced, Submission.gas, hasGas, hasPrice, pure_bind]
  rw [← hasGas, ← hasPrice]

theorem Submission.nonce?_of_filled {s : Submission} (filled : s.transaction.Filled) :
    s.nonce? = pure s.transaction.nonce := by
  obtain ⟨nonce, hasNonce⟩ := Option.isSome_iff_exists.mp filled.nonce
  simp only [nonce?, hasNonce]

namespace RpcClient

variable {c : RpcClient} {call : ChainCall} {t : Transaction}

theorem commits_of_reads (reads : call.reads = true) :
    ∀ request ∈ c.requests call, request.commits = false := by
  cases call with
  | head | call | receipt =>
      intro request member
      rw [List.mem_singleton.mp member]
      rfl
  | estimateGas | pendingNonce | gasPrice | broadcast => exact nomatch reads

theorem requests_broadcast (filled : t.Filled) :
    c.requests (.broadcast t) = [.chainId] ∨
      ∃ request, c.requests (.broadcast t) = [.chainId, request] := by
  let s := c.submission t
  have filled : s.transaction.Filled := ⟨filled.gas, filled.gasPrice, filled.nonce⟩
  obtain ⟨nonce, hasNonce⟩ := Option.isSome_iff_exists.mp filled.nonce
  change (s.run.after []).2 = _ ∨ ∃ request, (s.run.after []).2 = _
  rw [Submission.run, Submission.priced_of_filled filled, Submission.nonce?_of_filled filled,
    hasNonce]
  simp only [pure_bind, Dialogue.after_bind, Submission.ask, Dialogue.after_ask]
  cases read? Answer.uint64? (s.endpoint .chainId 0) with
  | none => exact .inl rfl
  | some chain => exact .inr ⟨_, rfl⟩

/-- A filled transaction is submitted once at most, and nothing else submits anything. -/
theorem countP_submits_requests (filled : ∀ t, call = .broadcast t → t.Filled) :
    (c.requests call).countP RpcRequest.submits ≤ if call.isBroadcast then 1 else 0 := by
  cases call with
  | broadcast t =>
      have asking : ¬ RpcRequest.chainId.submits = true := nofun
      rcases requests_broadcast (c := c) (filled t rfl) with only | ⟨request, both⟩
      · rw [only, List.countP_cons_of_neg asking]
        exact Nat.zero_le _
      · rw [both, List.countP_cons_of_neg asking]
        exact List.countP_le_length
  | head | call | receipt | estimateGas | pendingNonce | gasPrice => exact Nat.le_refl 0

theorem countP_submits_le {calls : List ChainCall}
    (filled : ∀ t, .broadcast t ∈ calls → t.Filled) :
    (calls.flatMap c.requests).countP RpcRequest.submits ≤
      calls.countP ChainCall.isBroadcast := by
  induction calls with
  | nil => exact Nat.le_refl 0
  | cons call calls ih =>
      have rest := ih fun t member => filled t (List.mem_cons_of_mem _ member)
      have here : (c.requests call).countP RpcRequest.submits ≤
          if call.isBroadcast then 1 else 0 :=
        countP_submits_requests fun t same => filled t (same ▸ List.mem_cons_self)
      rw [List.flatMap_cons, List.countP_append, List.countP_cons]
      omega

end RpcClient

end SwapDesk
