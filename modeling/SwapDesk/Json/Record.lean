import SwapDesk.Json.Reader
import SwapDesk.Word

namespace SwapDesk.Json.Written

def string? : Written → Option String
  | .string s => s
  | _ => none

def array? : Written → Option (List Written)
  | .array items => some items
  | _ => none

def natBelow? (limit : Nat) : Written → Option Nat
  | .number n =>
      match n.toJson? with
      | some (.int (.ofNat m)) => if m < limit then some m else none
      | _ => none
  | _ => none

def uint64? (w : Written) : Option UInt64 :=
  (w.natBelow? UInt64.size).map UInt64.ofNat

def uint8? (w : Written) : Option UInt8 :=
  (w.natBelow? UInt8.size).map UInt8.ofNat

/-- Whether a reader who looks for a small number is through with this one when it finds another:
an exponent that is out of reach is left in the middle. -/
def isReadThrough (n : Numeral) : Bool :=
  match n.exponent with
  | some (false, ds) =>
      (n.whole ++ n.fraction.getD []).all (· == '0') ||
        ((Text.digitsValueFrom? 0 ds.dropLast).getD 0) < 2 ^ 31
  | _ => true

/-- What may follow the bytes of an array: one item that is no byte, and has no parts. -/
def spare : List Written → Bool
  | [] => true
  | [.string s] => s.isSome
  | [.number n] => (uint8? (.number n)).isNone && isReadThrough n
  | [.null] | [.bool _] | [.missing] => true
  | _ => false

def address? : Written → Option Address
  | .string s => s.bind Address.ofText?
  | .array items =>
      (Bytes.ofItems? uint8? spare 20 items).map fun bytes => Address.ofNat (Bytes.value bytes)
  | _ => none

mutual

def isWhole : Written → Bool
  | .missing => false
  | .array items => areWhole items
  | .object members => haveWhole members
  | _ => true

def areWhole : List Written → Bool
  | [] => true
  | x :: xs => isWhole x && areWhole xs

def haveWhole : List (Option String × Written) → Bool
  | [] => true
  | (_, v) :: ms => isWhole v && haveWhole ms

end

def optional? {α : Type} (read : Written → Option α) : Option Written → Option (Option α)
  | none => some none
  | some .null => some none
  | some w => (read w).map some

def assign {α : Type} (key : String) (value : α) : List (String × α) → List (String × α)
  | [] => [(key, value)]
  | (k, v) :: rest => if k = key then (k, value) :: rest else (k, v) :: assign key value rest

/-- A map from text; the last of equal keys counts. -/
def map? {α : Type} (read : Written → Option α) : Written → Option (List (String × α))
  | .object members => do
      let ms ← members.mapM fun m => do
        let key ← m.1
        let value ← read m.2
        return (key, value)
      return ms.foldl (fun acc m => assign m.1 m.2 acc) []
  | _ => none

def fields? (names : List String) : Written → Option (List (Option Written))
  | .array items =>
      if items.length ≤ names.length then
        some (items.map some ++ List.replicate (names.length - items.length) none)
      else none
  | .object members => do
      let keyed ← members.mapM fun m => m.1.map fun key => (key, m.2)
      if keyed.any fun m => !names.contains m.1 && !isWhole m.2 then none
      else names.mapM fun name =>
        match keyed.filter fun m => m.1 == name with
        | [] => some none
        | [(_, value)] => some (some value)
        | _ => none
  | _ => none

end SwapDesk.Json.Written
