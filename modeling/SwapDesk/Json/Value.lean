import SwapDesk.Json.Binary64

namespace SwapDesk

inductive Json where
  | null
  | bool (b : Bool)
  | int (n : Int)
  | real (x : Binary64)
  | string (s : String)
  | array (items : List Json)
  | object (members : List (String × Json))
deriving Inhabited

namespace Json

def insertMember (key : String) (value : Json) : List (String × Json) → List (String × Json)
  | [] => [(key, value)]
  | (k, v) :: rest =>
      if key < k then (key, value) :: (k, v) :: rest
      else if k = key then (key, value) :: rest
      else (k, v) :: insertMember key value rest

/-- The object of some members, the last of those with one key counting. -/
def ofMembers (members : List (String × Json)) : Json :=
  .object (members.foldl (fun acc m => insertMember m.1 m.2 acc) [])

def get? (key : String) : Json → Option Json
  | object members => (members.find? fun m => m.1 == key).map (·.2)
  | _ => none

def nat (n : Nat) : Json := .int n

def strings (ss : List String) : Json := .array (ss.map .string)

def optional {α : Type} (f : α → Json) : Option α → Json
  | some x => f x
  | none => .null

def getD (key : String) (j : Json) : Json :=
  (j.get? key).getD .null

end Json

end SwapDesk
