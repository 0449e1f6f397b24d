import SwapDesk.Document.Value

/-!
Tables under construction. A table is stated by a header of its own, implied by the header of a
table inside it, or made by a dotted key; that decides what may still be added to it.
-/

namespace SwapDesk.Toml

inductive Origin where
  | stated
  | implied
  | dotted
deriving DecidableEq

inductive Node where
  | value (v : Document)
  | table (origin : Origin) (members : List (String × Node))
  /-- Tables in a row, the latest one first. -/
  | tables (latestFirst : List (List (String × Node)))

abbrev Members := List (String × Node)

namespace Members

def find? (key : String) (ms : Members) : Option Node :=
  (List.find? (fun m => m.1 == key) ms).map (·.2)

def put (key : String) (node : Node) : Members → Members
  | [] => [(key, node)]
  | (k, n) :: rest => if k = key then (k, node) :: rest else (k, n) :: put key node rest

/-- A value under a dotted key. What lies on the way is not stated, its last table is made by dotted
keys alone, and no key is given twice. -/
def assign (v : Document) : List String → Members → Option Members
  | [], _ => none
  | [key], ms =>
      match find? key ms with
      | none => some (put key (.value v) ms)
      | some _ => none
  | key :: rest, ms =>
      match find? key ms with
      | none => (assign v rest []).map fun inner => put key (.table .dotted inner) ms
      | some (.table .dotted inner) =>
          (assign v rest inner).map fun inner => put key (.table .dotted inner) ms
      | some (.table .implied inner) =>
          if rest.length = 1 then none
          else (assign v rest inner).map fun inner => put key (.table .implied inner) ms
      | some (.tables (latest :: others)) =>
          if rest.length = 1 then none
          else (assign v rest latest).map fun latest => put key (.tables (latest :: others)) ms
      | some _ => none

def within (change : Members → Option Members) : List String → Members → Option Members
  | [], ms => change ms
  | key :: rest, ms =>
      match find? key ms with
      | none => (within change rest []).map fun inner => put key (.table .implied inner) ms
      | some (.table origin inner) =>
          (within change rest inner).map fun inner => put key (.table origin inner) ms
      | some (.tables (latest :: others)) =>
          (within change rest latest).map fun latest => put key (.tables (latest :: others)) ms
      | some _ => none

/-- What a header does: a table is stated once, and comes after what is there. -/
def openTable (key : String) (ms : Members) : Option Members :=
  match find? key ms with
  | none => some (put key (.table .stated []) ms)
  | some (.table .implied inner) =>
      some (ms.filter (fun m => m.1 != key) ++ [(key, .table .stated inner)])
  | some _ => none

def openNext (key : String) (ms : Members) : Option Members :=
  match find? key ms with
  | none => some (put key (.tables [[]]) ms)
  | some (.tables items) => some (put key (.tables ([] :: items)) ms)
  | some _ => none

end Members

mutual

def Node.document : Node → Document
  | .value v => v
  | .table _ members => .table (documentMembers members)
  | .tables latestFirst => .array (documentItems latestFirst).reverse

def documentMembers : Members → Document.Members
  | [] => []
  | (key, node) :: rest => (key, node.document) :: documentMembers rest

def documentItems : List Members → List Document
  | [] => []
  | ms :: rest => .table (documentMembers ms) :: documentItems rest

end

end SwapDesk.Toml
