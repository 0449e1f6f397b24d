import SwapDesk.Platform
import SwapDesk.Text.Decimal

namespace SwapDesk.CommandLine

structure TradeArguments where
  source : String
  target : String
  amount : String
  platform : Option Platform := none
  reverse : Bool := false
  uid : Option String := none
deriving DecidableEq

inductive Command where
  | quote (trade : TradeArguments)
  | swap (trade : TradeArguments) (production noWait : Bool) (slippageBps : Option UInt64)
  | history (uid : Option String) (limit : Int)
deriving DecidableEq

structure Invocation where
  config : Option String := none
  chain : Option UInt64 := none
  logJson : Bool := false
  command : Command
deriving DecidableEq

inductive Refusal where
  | information
  | misuse
deriving DecidableEq

/-- What a group of options takes: names with a value, whose texts are checked, and plain names. -/
structure OptionRules where
  valued : List (String × (String → Bool))
  plain : List String
  asking : List String

structure Given where
  values : List (String × String) := []
  flags : List String := []
deriving DecidableEq

namespace Given

def value? (g : Given) (name : String) : Option String :=
  (g.values.find? fun v => v.1 == name).map (·.2)

def holds (g : Given) (name : String) : Bool :=
  g.flags.contains name

end Given

/-- A token that is written like an option cannot be a value; a single dash can. -/
def isOptionLike (token : String) : Bool :=
  match token.toList with
  | '-' :: _ :: _ => true
  | _ => false

def splitLong (token : String) : String × Option String :=
  let cs := token.toList
  match cs.dropWhile (· != '=') with
  | [] => (token, none)
  | _ :: value => (String.ofList (cs.takeWhile (· != '=')), some (String.ofList value))

namespace OptionRules

def withValue (r : OptionRules) (g : Given) (name value : String) : Except Refusal Given :=
  match r.valued.find? fun v => v.1 == name with
  | some (_, check) =>
      if (g.value? name).isNone && check value then
        .ok { g with values := g.values ++ [(name, value)] }
      else .error .misuse
  | none => .error .misuse

def withFlag (r : OptionRules) (g : Given) (name : String) : Except Refusal Given :=
  if r.asking.contains name then .error .information
  else if r.plain.contains name && !g.holds name then
    .ok { g with flags := g.flags ++ [name] }
  else .error .misuse

def asksBriefly (r : OptionRules) (token : String) : Bool :=
  match token.toList with
  | '-' :: letter :: _ => r.asking.contains (String.ofList ['-', letter])
  | _ => false

def take (r : OptionRules) (g : Given) : List String → Except Refusal (Given × List String)
  | [] => .ok (g, [])
  | token :: rest =>
      if token = "--" ∨ !isOptionLike token then .ok (g, token :: rest)
      else if r.asksBriefly token then .error .information
      else
        match splitLong token with
        | (name, some value) => (r.withValue g name value).bind fun g => take r g rest
        | (name, none) =>
            if (r.valued.find? fun v => v.1 == name).isSome then
              match rest with
              | value :: rest =>
                  if isOptionLike value then .error .misuse
                  else (r.withValue g name value).bind fun g => take r g rest
              | [] => .error .misuse
            else (r.withFlag g name).bind fun g => take r g rest

def takeAll (r : OptionRules) (tokens : List String) : Except Refusal Given :=
  match r.take {} tokens with
  | .error e => .error e
  | .ok (g, rest) => if rest = [] ∨ rest = ["--"] then .ok g else .error .misuse

end OptionRules

def anyText (_ : String) : Bool := true

def isUInt64 (s : String) : Bool := (Text.readUInt64? s).isSome

def isInt64 (s : String) : Bool := (Text.readInt64? s).isSome

def isPlatform (s : String) : Bool := (Platform.ofText s).toOption.isSome

def programRules : OptionRules where
  valued := [("--config", anyText), ("--chain", isUInt64)]
  plain := ["--log-json"]
  asking := ["--help", "-h", "--version", "-V"]

def commandHelp : List String := ["--help", "-h"]

def tradeValues : List (String × (String → Bool)) :=
  [("--from", anyText), ("--to", anyText), ("--amount", anyText), ("--platform", isPlatform),
   ("--uid", anyText)]

def quoteRules : OptionRules := ⟨tradeValues, ["--reverse"], commandHelp⟩

def swapRules : OptionRules :=
  ⟨tradeValues ++ [("--slippage-bps", isUInt64)], ["--reverse", "--prod", "--no-wait"],
    commandHelp⟩

def historyRules : OptionRules :=
  ⟨[("--uid", anyText), ("--limit", isInt64)], [], commandHelp⟩

def defaultLimit : Int := 20

def required (g : Given) (name : String) : Except Refusal String :=
  match g.value? name with
  | some value => .ok value
  | none => .error .misuse

def trade (g : Given) : Except Refusal TradeArguments := do
  let source ← required g "--from"
  let target ← required g "--to"
  let amount ← required g "--amount"
  return {
    source, target, amount
    platform := (g.value? "--platform").bind fun s => (Platform.ofText s).toOption
    reverse := g.holds "--reverse"
    uid := g.value? "--uid" }

def quoteCommand (tokens : List String) : Except Refusal Command := do
  let g ← quoteRules.takeAll tokens
  return .quote (← trade g)

def swapCommand (tokens : List String) : Except Refusal Command := do
  let g ← swapRules.takeAll tokens
  let t ← trade g
  return .swap t (g.holds "--prod") (g.holds "--no-wait")
    ((g.value? "--slippage-bps").bind Text.readUInt64?)

def historyCommand (tokens : List String) : Except Refusal Command := do
  let g ← historyRules.takeAll tokens
  return .history (g.value? "--uid")
    (((g.value? "--limit").bind Text.readInt64?).getD defaultLimit)

def isExplained : List String → Bool
  | [] => true
  | [name] => ["quote", "swap", "history", "help"].contains name
  | _ => false

def command : List String → Except Refusal Command
  | "quote" :: tokens => quoteCommand tokens
  | "swap" :: tokens => swapCommand tokens
  | "history" :: tokens => historyCommand tokens
  | "help" :: names => .error (if isExplained names then .information else .misuse)
  | _ => .error .misuse

def read (tokens : List String) : Except Refusal Invocation := do
  let (g, rest) ← programRules.take {} tokens
  let command ← command rest
  return {
    config := g.value? "--config"
    chain := (g.value? "--chain").bind Text.readUInt64?
    logJson := g.holds "--log-json"
    command }

end SwapDesk.CommandLine
