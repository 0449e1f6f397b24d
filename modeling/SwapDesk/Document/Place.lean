import SwapDesk.Document.Value
import SwapDesk.Text.Decimal
import SwapDesk.Unicode.Lowercase

/-!
Places in a configuration. A place is written as a name and the steps from there on: `.name` for a
member and `[index]` for an item. Names do not tell capitals from small letters. Setting a value
makes way for it: what is not of the kind that a step needs is replaced.
-/

namespace SwapDesk.Document

inductive Step where
  | member (name : String)
  | item (index : Int)
deriving DecidableEq

def isNameChar (c : Char) : Bool :=
  c.isAlphanum || c == '_' || c == '-' || c == ' '

def name? (cs : List Char) : Option (String × List Char) :=
  let name := cs.takeWhile isNameChar
  if name.isEmpty then none else some (String.ofList name, cs.dropWhile isNameChar)

def skipBlanks (cs : List Char) : List Char :=
  cs.dropWhile fun c => c == ' ' || c == '\t'

def index? (cs : List Char) : Option (Int × List Char) :=
  let cs := skipBlanks cs
  let sign := cs.takeWhile (· == '-')
  let body := cs.drop sign.length
  let digits := body.takeWhile Char.isDigit
  match skipBlanks (body.dropWhile Char.isDigit) with
  | ']' :: rest =>
      if digits.isEmpty then none
      else (Text.readInt64? (String.ofList (sign ++ digits))).map (·, rest)
  | _ => none

def steps? : Nat → List Char → Option (List Step)
  | _, [] => some []
  | 0, _ => none
  | fuel + 1, '.' :: cs => do
      let (name, rest) ← name? cs
      return .member name :: (← steps? fuel rest)
  | fuel + 1, '[' :: cs => do
      let (index, rest) ← index? cs
      return .item index :: (← steps? fuel rest)
  | _, _ => none

/-- The steps that a text spells; one that spells none is a name as a whole. -/
def steps (text : String) : List Step :=
  let cs := text.toList
  let spelled : Option (List Step) := do
    let (name, rest) ← name? cs
    return .member name :: (← steps? rest.length rest)
  spelled.getD [.member text]

mutual

def setMember (name : String) (value : Document) (target : Document) : Document :=
  let name := Unicode.lowercase name
  let ms := target.members
  match value with
  | .table incoming =>
      .table (ms.put name (setMembers incoming ((ms.get? name).getD (.table []))))
  | value => .table (ms.put name value)

def setMembers : Members → Document → Document
  | [], target => target
  | (name, value) :: rest, target => setMembers rest (setMember name value target)

end

/-- No array has a place beyond this one. -/
def lastIndex : Nat := 10 ^ 7

/-- The place of an index, which counts from the end when it is negative. -/
def position? (size : Nat) : Int → Option Nat
  | .ofNat k => if k ≤ lastIndex then some k else none
  | .negSucc k => if k < size then some (size - (k + 1)) else none

def changeItem? (index : Int) (change : Document → Option Document) (target : Document) :
    Option Document := do
  let items := target.items
  let k ← position? items.length index
  let items := items ++ List.replicate (k + 1 - items.length) .gap
  let changed ← change ((items[k]?).getD .gap)
  return .array (items.set k changed)

def set? (value : Document) : List Step → Document → Option Document
  | [], _ => some value
  | [.member name], target => some (setMember name value target)
  | .member name :: rest, target => do
      let name := Unicode.lowercase name
      let inner ← set? value rest ((target.members.get? name).getD .gap)
      return .table (target.members.put name inner)
  | .item index :: rest, target => changeItem? index (set? value rest) target

def spread? (source : Members) (target : Document) : Option Document :=
  source.foldlM (fun acc m => set? m.2 (steps m.1) acc) target

def layered? (sources : List Members) : Option Document := do
  let once ← sources.foldlM (fun acc source => spread? source acc) (.table [])
  spread? once.members (.table [])

end SwapDesk.Document
