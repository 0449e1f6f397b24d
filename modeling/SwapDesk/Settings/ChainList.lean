import SwapDesk.Failure
import SwapDesk.Text.Split

namespace SwapDesk.ChainList

def isQuote (c : Char) : Bool :=
  c == '\x60' || c == '"' || c == '\''

def separates (c : Char) : Bool :=
  c == ',' || Text.isBlank c

def chainId (word : List Char) : Except ConfigFault UInt64 :=
  match Text.unsignedBelow? UInt64.size word with
  | some n => .ok (UInt64.ofNat n)
  | none => .error (.invalidChainId (String.ofList word))

def words (text : String) : List (List Char) :=
  Text.runs separates (Text.trimWhile isQuote text.toList)

/-- The ids in order; one word that is no id spoils the whole. -/
def read (text : String) : Except ConfigFault (List UInt64) :=
  match words text with
  | [] => .error .emptyChainList
  | ws => ws.mapM chainId

end SwapDesk.ChainList
