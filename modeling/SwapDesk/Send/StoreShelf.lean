import SwapDesk.Files.Tree
import SwapDesk.Send.AuditStore
import SwapDesk.Send.StoreLocation

namespace SwapDesk

abbrev StoreShelf := List (List (List Char) × AuditStore)

namespace StoreShelf

def get? (shelf : StoreShelf) (place : List (List Char)) : Option AuditStore :=
  (shelf.find? fun s => s.1 == place).map (·.2)

def put (shelf : StoreShelf) (place : List (List Char)) (store : AuditStore) : StoreShelf :=
  (place, store) :: shelf.filter fun s => s.1 != place

/-- The names on the way to a file, without idle pieces and steps back. Nothing lies below a
file. -/
def settled? (tree : FileTree) : List (List Char) → List (List Char) → Option (List (List Char))
  | place, [] => some place
  | place, piece :: rest =>
      if Files.isIdle piece then settled? tree place rest
      else if piece = ['.', '.'] then settled? tree place.dropLast rest
      else match tree.entryAt? place with
        | some (.file _) => none
        | _ => settled? tree (place ++ [piece]) rest

def placeOf? (tree : FileTree) (path : String) : Option (List (List Char)) :=
  let path := Files.absolute tree.workingDirectory path
  (settled? tree [] (Text.pieces Text.isSlash path.toList)).filter (!·.isEmpty)

/-- A new store in a file, which must be empty or missing from a directory that is there. A single
byte is as good as nothing. -/
def newStore? (tree : FileTree) (place : List (List Char)) (access : StoreAccess) :
    Option AuditStore :=
  match tree.entryAt? place with
  | some .directory => none
  | some (.file content) =>
      if content.utf8ByteSize ≤ 1 ∧ access ≠ .read then some {} else none
  | none =>
      if access = .create ∧ tree.entryAt? place.dropLast = some .directory then some {} else none

/-- Opens a store. What is done to it can be put back on the shelf, but for what was in memory. -/
def open? (shelf : StoreShelf) (tree : FileTree) (place : StorePlace) :
    Option (AuditStore × (AuditStore → StoreShelf)) :=
  match place.medium with
  | .memory => if place.access = .read then none else some ({}, fun _ => shelf)
  | .file path => do
      let place' ← placeOf? tree path
      let store ← (shelf.get? place').or (newStore? tree place' place.access)
      return (store, shelf.put place')

end StoreShelf

end SwapDesk
