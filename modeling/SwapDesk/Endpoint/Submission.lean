import SwapDesk.Endpoint.Exchange

/-!
Completing a transaction by questions to a node, and handing it in. The gas comes first, then the
nonce and the chain; the first question without an answer is the last one.
-/

namespace SwapDesk

/-- Questions one after the other, up to the first without an answer. What was asked is kept. -/
abbrev Dialogue := OptionT (StateM (List RpcRequest))

namespace Dialogue

variable {α : Type}

def ask (endpoint : Endpoint) (request : RpcRequest) (decode : Json → Option α) : Dialogue α := do
  let before ← modifyGet fun made => (made.length, made ++ [request])
  match endpoint request before with
  | .result value => OptionT.mk (pure (decode value))
  | .failure => failure

def hold (d : Dialogue α) : Option α × List RpcRequest :=
  (OptionT.run d).run []

end Dialogue

structure Submission where
  endpoint : Endpoint
  transaction : Transaction
  /-- Whether the wallet signs it, and not the node. -/
  signed : Bool

namespace Submission

def ask {α : Type} (s : Submission) (request : RpcRequest) (decode : Json → Option α) :
    Dialogue α :=
  Dialogue.ask s.endpoint request decode

def gas (s : Submission) : Dialogue UInt64 :=
  match s.transaction.gas with
  | some gas => pure gas
  | none => s.ask (.estimateGas s.transaction) Answer.uint64?

def suggestedFees (s : Submission) : Dialogue (Option FeeCaps) := do
  let history ← s.ask .feeHistory Answer.feeHistory?
  match history.latestBase? with
  | some base => return some (history.caps base)
  | none => return (← s.ask .latestBlock Answer.blockFee?).map history.caps

def priced (s : Submission) : Dialogue (Transaction × Option FeeCaps) := do
  let t := s.transaction
  let gas ← s.gas
  match t.gasPrice with
  | some _ => return ({ t with gas := some gas }, none)
  | none =>
      match ← s.suggestedFees with
      | some caps => return ({ t with gas := some gas }, some caps)
      | none =>
          let price ← s.ask .gasPrice Answer.gasPrice?
          let gas ← s.gas
          return ({ t with gas := some gas, gasPrice := some price }, none)

def nonce? (s : Submission) : Dialogue (Option UInt64) :=
  match s.transaction.nonce, s.transaction.sender with
  | some nonce, _ => pure (some nonce)
  | none, some account => some <$> s.ask (.settledNonce account) Answer.uint64?
  | none, none => pure none

/-- Hands the transaction in; a nonce is missed only when everything else is there. -/
def run (s : Submission) : Dialogue Hash := do
  let (t, fees) ← s.priced
  let nonce ← s.nonce?
  let chain ← s.ask .chainId Answer.uint64?
  match nonce with
  | none => failure
  | some nonce =>
      let request :=
        if s.signed then .broadcastSigned
        else .broadcast { t with nonce := some nonce } fees chain
      s.ask request (Answer.hash? Answer.outerSpare)

end Submission

end SwapDesk
