import SwapDesk.Chain.Setup
import SwapDesk.CommandLine.Arguments
import SwapDesk.Route.SwapCall
import SwapDesk.Send.StoreShelf
import SwapDesk.Settings.Load
import SwapDesk.Token.ListFile

namespace SwapDesk.CommandLine

structure Desk where
  around : Surroundings
  shelf : StoreShelf := []
  /-- Seconds since the epoch. -/
  now : UInt64 := 0
  /-- Marks an operation whose caller gives it no uid. -/
  freshUid : Uid := ""
  /-- How long the polls of a wait take, and when the user interrupts it. -/
  timing : WaitTiming := {}

inductive Ending where
  | done
  | failed (failure : Failure)
  | crashed
  | refused (why : Refusal)
deriving DecidableEq

def Ending.ofHalt : Halt → Ending
  | .failed e => .failed e
  | .crashed => .crashed

def Ending.status : Ending → UInt32
  | .done => 0
  | .failed _ => 1
  | .crashed => 101
  | .refused .information => 0
  | .refused .misuse => 2

structure Outcome where
  ending : Ending
  lines : List String := []
  requests : List RpcRequest := []
  shelf : StoreShelf

/-- Stands for the time at which a row was saved. -/
def savedAt : String := "<created_at>"

def shown {α : Type} (text : α → String) : Option α → String
  | some x => "Some(" ++ text x ++ ")"
  | none => "None"

def shownBool (b : Bool) : String :=
  if b then "true" else "false"

def shownUInt64 (n : UInt64) : String :=
  Text.decimal n.toNat

def historyLine (row : AuditRow) : String :=
  savedAt ++ " [" ++ row.uid ++ "] " ++ row.method ++ "." ++ row.func ++ " " ++ row.hash.text ++
    " status=" ++ shown shownBool row.status ++ " block=" ++ shown shownUInt64 row.block ++
    " gas_used=" ++ shown shownUInt64 row.gasUsed

def tokenName (tokens : TokenRegistry) (chain : UInt64) (a : Address) : String :=
  ((tokens.byAddress? chain a).map Token.symbol).getD a.text

def pathText (tokens : TokenRegistry) (chain : UInt64) (path : TradePath) : String :=
  " -> ".intercalate (path.tokens.map (tokenName tokens chain))

def quoteLine (uid : Uid) (path : String) (quote : Quote) (tokenIn tokenOut : Token) : String :=
  Failure.tagged uid (path ++ " via " ++ quote.path.platform.name ++ " at block " ++
    shownUInt64 quote.block ++ ": " ++ tokenIn.formatUnits quote.amountIn ++ " " ++
    tokenIn.symbol ++ " -> " ++ tokenOut.formatUnits quote.amountOut ++ " " ++ tokenOut.symbol)

def outcomeLine (uid : Uid) (func : String) : SendOutcome → String
  | .dryRun => Failure.tagged uid ("dry-run: " ++ func ++ " not sent")
  | .submitted hash _ => Failure.tagged uid ("sent " ++ hash.text)
  | .confirmed hash _ receipt =>
      Failure.tagged uid ("confirmed " ++ hash.text ++ " in block " ++
        shown shownUInt64 receipt.block ++ " (gas used " ++ shownUInt64 receipt.gasUsed ++ ")")

/-- Polls in the order of their times; a receipt is asked for before the block number. -/
def polls (hash : Hash) : List Nat → List Nat → List ChainCall
  | [], heads => heads.map fun _ => .head
  | receipts, [] => receipts.map fun _ => .receipt hash
  | r :: receipts, h :: heads =>
      if r ≤ h then .receipt hash :: polls hash receipts (h :: heads)
      else .head :: polls hash (r :: receipts) heads
termination_by receipts heads => receipts.length + heads.length

def questions (hash : Option Hash) : List SendEffect → List ChainCall
  | [] => []
  | .ask call :: rest => call :: questions hash rest
  | .insert row :: rest => questions (some row.hash) rest
  | .await wait :: rest =>
      polls (hash.getD ⟨0⟩) wait.receiptPolls wait.headPolls ++ questions hash rest
  | .update .. :: rest => questions hash rest

structure Session where
  desk : Desk
  settings : Settings
  tokens : TokenRegistry
  context : ChainContext
  client : RpcClient

namespace Session

def router (s : Session) : TradeRouter :=
  s.context.router s.client.chain

def chainId (s : Session) : UInt64 :=
  s.context.chainId

structure Routed where
  result : Except Halt Quote
  calls : List ChainCall := []

/-- The amount is one of the output token when the output is given. -/
def amount (s : Session) (t : TradeArguments) (uid : Uid) : Except Halt Word :=
  let symbol := if t.reverse then t.target else t.source
  match s.router.resolve symbol s.chainId uid with
  | .error e => .error (.failed e)
  | .ok token => token.toBaseUnits t.amount

def request (s : Session) (t : TradeArguments) (uid : Uid) (amount : Word) : RouteRequest :=
  { tokenIn := t.source, tokenOut := t.target, amount, platform := t.platform
    direction := .ofReverse t.reverse, chain := s.chainId, uid }

def route (s : Session) (t : TradeArguments) (uid : Uid) : Routed :=
  match s.amount t uid with
  | .error why => ⟨.error why, []⟩
  | .ok amount =>
      let run := s.router.route (s.request t uid amount)
      ⟨run.result.mapError .failed, run.calls⟩

structure Step where
  ending : Ending
  lines : List String := []
  calls : List ChainCall := []
  store : AuditStore

def describe (s : Session) (t : TradeArguments) (uid : Uid) (quote : Quote) :
    Except Failure String := do
  let tokenIn ← s.router.resolve t.source s.chainId uid
  let tokenOut ← s.router.resolve t.target s.chainId uid
  return quoteLine uid (pathText s.tokens s.chainId quote.path) quote tokenIn tokenOut

def quote (s : Session) (t : TradeArguments) (store : AuditStore) : Step :=
  let uid := t.uid.getD s.desk.freshUid
  let routed := s.route t uid
  match routed.result with
  | .error why => { ending := .ofHalt why, calls := routed.calls, store }
  | .ok quote =>
      match s.describe t uid quote with
      | .error e => { ending := .failed e, calls := routed.calls, store }
      | .ok line => { ending := .done, lines := [line], calls := routed.calls, store }

def swapCall (s : Session) (t : TradeArguments) (uid : Uid) (slippageBps : UInt64)
    (wallet : Address) (quote : Quote) : Except Halt PreparedCall :=
  let platform := quote.path.platform
  match s.context.routers.get? platform with
  | none => .error (.failed (.unsupportedPlatform uid platform.name s.chainId))
  | some router =>
      if s.desk.now.toNat + s.settings.swapDeadlineSecs.toNat < UInt64.size then
        let terms : SwapTerms :=
          ⟨.ofReverse t.reverse, slippageBps, wallet, s.desk.now + s.settings.swapDeadlineSecs⟩
        match SwapCall.build? platform router quote terms with
        | some call => .ok call
        | none => .error .crashed
      else .error .crashed

def sendRequest (uid : Uid) (wallet : Address) (production waits : Bool) (call : PreparedCall) :
    SendRequest :=
  { transaction := .call call.target call.calldata
    method := "swap"
    func := call.func
    context := call.context
    uid
    sender := wallet
    production
    waitConfirmation := waits }

def swap (s : Session) (t : TradeArguments) (asked noWait : Bool) (slippageBps : Option UInt64)
    (store : AuditStore) : Step :=
  let uid := t.uid.getD s.desk.freshUid
  let production := asked || s.settings.production
  if production && s.settings.walletKey.isNone then
    { ending := .failed (.config .keyNeededToBroadcast), store }
  else
    match s.settings.wallet with
    | .error e => { ending := .failed e, store }
    | .ok wallet =>
        let routed := s.route t uid
        let bps := slippageBps.getD s.settings.slippageBps
        match routed.result.bind (s.swapCall t uid bps wallet) with
        | .error why => { ending := .ofHalt why, calls := routed.calls, store }
        | .ok call =>
            let waits := s.settings.waitConfirmation && !noWait
            let chain := s.client.chain.afterHeads (routed.calls.count .head)
            let run := s.context.executor.send chain s.desk.timing
              (sendRequest uid wallet production waits call) store
            let calls := routed.calls ++ questions none run.effects
            match run.result with
            | .error why => { ending := .ofHalt why, calls, store := run.store }
            | .ok outcome =>
                { ending := .done, lines := [outcomeLine uid call.func outcome], calls
                  store := run.store }

end Session

def history (uid : Option String) (limit : Int) (store : AuditStore) : List String :=
  (match uid with
    | some uid => store.forUid uid
    | none => store.recent limit).map historyLine

structure Work where
  ending : Ending
  lines : List String := []
  requests : List RpcRequest := []
  store : AuditStore

def Session.Step.work (step : Session.Step) (client : RpcClient) (setup : List RpcRequest) : Work :=
  { ending := step.ending, lines := step.lines
    requests := setup ++ step.calls.flatMap client.requests, store := step.store }

/-- Carries out what needs tokens and a chain: the token list is read before the chain is set up. -/
def trading (d : Desk) (s : Settings) (chain : UInt64) (store : AuditStore)
    (act : Session → AuditStore → Session.Step) : Work :=
  let tokens := (s.tokenListFile d.around.env d.around.tree).bind fun path =>
    TokenList.load path (d.around.tree.text? path)
  match tokens with
  | .error e => { ending := .failed e, store }
  | .ok tokens =>
      let (token, registry) := ChainRegistry.childToken {}
      let setup := ChainSetup.run s d.around chain tokens token
      match setup.result with
      | .error e => { ending := .failed e, requests := setup.requests, store }
      | .ok (context, client) =>
          match (registry.insert context).get chain with
          | .error e => { ending := .failed e, requests := setup.requests, store }
          | .ok context => (act ⟨d, s, tokens, context, client⟩ store).work client setup.requests

def perform (d : Desk) (s : Settings) (chain : UInt64) (store : AuditStore) : Command → Work
  | .history uid limit => { ending := .done, lines := history uid limit store, store }
  | .quote t => trading d s chain store fun session => session.quote t
  | .swap t production noWait slippageBps =>
      trading d s chain store fun session => session.swap t production noWait slippageBps

def openStore? (d : Desk) (url : String) : Option (AuditStore × (AuditStore → StoreShelf)) :=
  (StorePlace.ofUrl? url).bind (d.shelf.open? d.around.tree)

def invoke (d : Desk) (inv : Invocation) : Outcome :=
  match Settings.load d.around.env d.around.tree inv.config with
  | .error why => { ending := .ofHalt why, shelf := d.shelf }
  | .ok s =>
      match inv.chain.or s.chains.head? with
      | none => { ending := .failed (.config .noChains), shelf := d.shelf }
      | some chain =>
          match openStore? d (s.storeUrl d.around.env) with
          | none =>
              { ending := .failed (.initialization ("DB Connect failed: " ++ unstated))
                shelf := d.shelf }
          | some (store, putBack) =>
              let work := perform d s chain store inv.command
              { ending := work.ending, lines := work.lines, requests := work.requests
                shelf := putBack work.store }

def run (d : Desk) (tokens : List String) : Outcome :=
  match read tokens with
  | .error why => { ending := .refused why, shelf := d.shelf }
  | .ok inv => invoke d inv

end SwapDesk.CommandLine
