import SwapDesk.Files.Path

namespace SwapDesk

inductive FileEntry where
  | file (content : String)
  | directory
deriving DecidableEq, Inhabited

def FileEntry.isDirectory : FileEntry → Bool
  | directory => true
  | file _ => false

structure FileTree where
  workingDirectory : String
  /-- Directories that exist whether or not they hold a file. -/
  directories : List String := []
  files : List (String × String) := []
deriving Inhabited

namespace FileTree

def names (path : String) : List (List Char) :=
  (Text.runs Text.isSlash path.toList)

def leads (place : List (List Char)) (path : String) : Bool :=
  place.isPrefixOf (names path)

def entryAt? (t : FileTree) (place : List (List Char)) : Option FileEntry :=
  match t.files.find? fun f => names f.1 == place with
  | some f => some (.file f.2)
  | none =>
      if (t.workingDirectory :: t.directories ++ t.files.map (·.1)).any (leads place) then
        some .directory
      else none

def walk (t : FileTree) : List (List Char) → List (List Char) → Option FileEntry
  | place, [] => t.entryAt? place
  | place, piece :: rest =>
      match t.entryAt? place with
      | some .directory =>
          if Files.isIdle piece then walk t place rest
          else if piece = ['.', '.'] then walk t place.dropLast rest
          else walk t (place ++ [piece]) rest
      | _ => none

def entry? (t : FileTree) (path : String) : Option FileEntry :=
  let path := Files.absolute t.workingDirectory path
  t.walk [] (Text.pieces Text.isSlash path.toList)

def fileExists (t : FileTree) (path : String) : Bool :=
  (t.entry? path).isSome

def text? (t : FileTree) (path : String) : Option String :=
  match t.entry? path with
  | some (.file content) => some content
  | _ => none

end FileTree

end SwapDesk
