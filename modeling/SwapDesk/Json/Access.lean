import SwapDesk.Json.Value

namespace SwapDesk.Json

def text? (j : Json) (key : String) : Option String :=
  match j.getD key with
  | .string s => some s
  | _ => none

def text (j : Json) (key : String) : String :=
  (text? j key).getD ""

def items (j : Json) (key : String) : List Json :=
  match j.getD key with
  | .array xs => xs
  | _ => []

def members : Json → List (String × Json)
  | .object ms => ms
  | _ => []

def textMembers (j : Json) : List (String × String) :=
  (members j).filterMap fun (key, v) => match v with
    | .string s => some (key, s)
    | _ => none

def flag (j : Json) (key : String) (absent : Bool) : Bool :=
  match j.getD key with
  | .bool b => b
  | _ => absent

def int? (j : Json) (key : String) : Option Int :=
  match j.getD key with
  | .int n => some n
  | _ => none

def withoutMembers (keys : List String) : Json → Json
  | .object ms => .object (ms.filter fun m => !keys.contains m.1)
  | j => j

mutual

def mapText (f : String → String) : Json → Json
  | .string s => .string (f s)
  | .array xs => .array (mapTexts f xs)
  | .object ms => .object (mapMembers f ms)
  | j => j

def mapTexts (f : String → String) : List Json → List Json
  | [] => []
  | x :: xs => mapText f x :: mapTexts f xs

def mapMembers (f : String → String) : List (String × Json) → List (String × Json)
  | [] => []
  | (k, v) :: ms => (k, mapText f v) :: mapMembers f ms

end

end SwapDesk.Json
