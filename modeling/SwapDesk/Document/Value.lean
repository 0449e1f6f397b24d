import SwapDesk.Json.Binary64

namespace SwapDesk

inductive Real where
  | finite (x : Binary64)
  | infinite (negative : Bool)
  | notANumber
deriving Inhabited

namespace Real

def text : Real → String
  | finite x => x.plainText
  | infinite negative => if negative then "-inf" else "inf"
  | notANumber => "NaN"

def isZero : Real → Bool
  | finite x => x.mantissa == 0
  | _ => false

/-- The nearest whole number below `2 ^ 64`, a half going away from zero. -/
def toUInt64 : Real → UInt64
  | finite x =>
      if x.negative then 0
      else
        let (n, d) := x.ratio
        UInt64.ofNat (min ((2 * n + d) / (2 * d)) (2 ^ 64 - 1))
  | infinite negative => if negative then 0 else UInt64.ofNat (2 ^ 64 - 1)
  | notANumber => 0

end Real

inductive Document where
  /-- A place of an array that nothing was put into. -/
  | gap
  | flag (b : Bool)
  | integer (n : Int)
  | real (x : Real)
  | text (s : String)
  | array (items : List Document)
  | table (members : List (String × Document))
deriving Inhabited

namespace Document

abbrev Members := List (String × Document)

def members : Document → Members
  | table ms => ms
  | _ => []

def items : Document → List Document
  | array xs => xs
  | _ => []

namespace Members

def get? (key : String) (ms : Members) : Option Document :=
  (ms.find? fun m => m.1 == key).map (·.2)

def put (key : String) (value : Document) : Members → Members
  | [] => [(key, value)]
  | (k, v) :: rest => if k = key then (k, value) :: rest else (k, v) :: put key value rest

end Members

end Document

end SwapDesk
