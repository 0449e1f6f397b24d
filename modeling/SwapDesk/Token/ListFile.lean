import SwapDesk.Token.Registry
import SwapDesk.Json.Record

namespace SwapDesk.TokenList

def entry? (w : Json.Written) : Option Entry := do
  let fields ← w.fields? ["symbol", "decimals", "addresses"]
  match fields with
  | [some symbol, some decimals, addresses] => do
      let symbol ← symbol.string?
      let decimals ← decimals.uint8?
      let addresses ← match addresses with
        | none => some []
        | some w => w.map? Json.Written.string?
      return ⟨symbol, decimals, addresses⟩
  | _ => none

def entries? (text : String) : Option (List Entry) := do
  let w ← Json.write? text
  let items ← w.array?
  items.mapM entry?

def read? (text : String) : Option TokenRegistry :=
  (entries? text).map registry

def load (path : String) (content : Option String) : Except Failure TokenRegistry :=
  match content with
  | none => .error (.config (.unreadableTokens path))
  | some text =>
      match read? text with
      | none => .error (.config (.malformedTokens path))
      | some registry => .ok registry

end SwapDesk.TokenList
