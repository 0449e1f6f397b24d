import SwapDesk.Toml.Scalar
import SwapDesk.Toml.Table

namespace SwapDesk.Toml

def isBareKey (c : Char) : Bool :=
  c.isAlphanum || c == '_' || c == '-'

def simpleKey? (cs : List Char) : Option (String × List Char) :=
  match lineString? cs with
  | some (text, rest) => some (String.ofList text, rest)
  | none =>
      let key := cs.takeWhile isBareKey
      if key.isEmpty then none else some (String.ofList key, cs.dropWhile isBareKey)

/-- Values, and keys in a path, go less deep than this. -/
def depthLimit : Nat := 80

def keys? : Nat → List Char → Option (List String × List Char)
  | 0, _ => none
  | count + 1, cs => do
      let (key, rest) ← simpleKey? (skipBlanks cs)
      match skipBlanks rest with
      | '.' :: rest => do
          let (keys, rest) ← keys? count rest
          return (key :: keys, rest)
      | rest => return ([key], rest)

def path? (cs : List Char) : Option (List String × List Char) :=
  keys? (depthLimit - 1) cs

def skipComment? : List Char → Option (List Char)
  | '#' :: cs =>
      let comment := cs.takeWhile fun c => c != '\n'
      let body := if comment.getLast? = some '\r' then comment.dropLast else comment
      if body.any isControl then none else some (cs.dropWhile fun c => c != '\n')
  | cs => some cs

def skipGaps? : Nat → List Char → Option (List Char)
  | 0, _ => none
  | fuel + 1, cs =>
      match skipBlanks cs with
      | '#' :: rest => do
          let rest ← skipComment? ('#' :: rest)
          skipGaps? fuel rest
      | rest =>
          match afterBreak? rest with
          | some rest => skipGaps? fuel rest
          | none => some rest

def gapless? (cs : List Char) : Option (List Char) :=
  skipGaps? (cs.length + 1) cs

mutual

def value? : Nat → Nat → List Char → Option (Document × List Char)
  | 0, _, _ => none
  | fuel + 1, depth, cs =>
      match cs with
      | '[' :: rest =>
          if depth = 0 then none
          else (items? fuel (depth - 1) rest).map fun (xs, rest) => (.array xs, rest)
      | '{' :: rest =>
          if depth = 0 then none
          else match skipBlanks rest with
            | '}' :: rest => some (.table [], rest)
            | rest => (inline? fuel (depth - 1) [] rest).map fun (ms, rest) =>
                (Node.document (.table .stated ms), rest)
      | cs =>
          match string? cs with
          | some (text, rest) => some (.text (String.ofList text), rest)
          | none =>
              let (w, rest) := word cs
              (scalar? w).map (·, rest)

def items? : Nat → Nat → List Char → Option (List Document × List Char)
  | 0, _, _ => none
  | fuel + 1, depth, cs => do
      match ← gapless? cs with
      | ']' :: rest => return ([], rest)
      | cs => do
          let (x, rest) ← value? fuel depth cs
          match ← gapless? rest with
          | ']' :: rest => return ([x], rest)
          | ',' :: rest => do
              let (xs, rest) ← items? fuel depth rest
              return (x :: xs, rest)
          | _ => none

def inline? : Nat → Nat → Members → List Char → Option (Members × List Char)
  | 0, _, _, _ => none
  | fuel + 1, depth, ms, cs => do
      let (path, rest) ← path? cs
      match skipBlanks rest with
      | '=' :: rest => do
          let (v, rest) ← value? fuel depth (skipBlanks rest)
          let ms ← Members.assign v path ms
          match skipBlanks rest with
          | '}' :: rest => return (ms, rest)
          | ',' :: rest => inline? fuel depth ms rest
          | _ => none
      | _ => none

end

inductive Statement where
  | entry (path : List String) (value : Document)
  | header (path : List String)
  | nextHeader (path : List String)

def statement? (cs : List Char) : Option (Statement × List Char) :=
  match cs with
  | '[' :: '[' :: rest => do
      let (path, rest) ← path? rest
      match rest with
      | ']' :: ']' :: rest => return (.nextHeader path, rest)
      | _ => none
  | '[' :: rest => do
      let (path, rest) ← path? rest
      match rest with
      | ']' :: rest => return (.header path, rest)
      | _ => none
  | _ => do
      let (path, rest) ← path? cs
      match rest with
      | '=' :: rest => do
          let (v, rest) ← value? (cs.length + 1) (depthLimit - 1) (skipBlanks rest)
          return (.entry path v, rest)
      | _ => none

def lineEnd? (cs : List Char) : Option (List Char) := do
  let rest ← skipComment? (skipBlanks cs)
  match rest with
  | [] => some []
  | cs => afterBreak? cs

def statements? : Nat → List Char → Option (List Statement)
  | 0, _ => none
  | fuel + 1, cs => do
      match ← gapless? cs with
      | [] => return []
      | cs => do
          let (s, rest) ← statement? cs
          let rest ← lineEnd? rest
          let more ← statements? fuel rest
          return s :: more

/-- The members so far, and the table that entries go to. -/
structure Progress where
  members : Members := []
  current : List String := []

def Progress.add? (p : Progress) : Statement → Option Progress
  | .entry path v =>
      (Members.within (Members.assign v path) p.current p.members).map fun ms =>
        { p with members := ms }
  | .header path => opened Members.openTable path
  | .nextHeader path => opened Members.openNext path
where
  opened (change : String → Members → Option Members) (path : List String) : Option Progress :=
    path.getLast?.bind fun last =>
      (Members.within (change last) path.dropLast p.members).map fun ms => ⟨ms, path⟩

def withoutOrderMark : List Char → List Char
  | '\uFEFF' :: rest => rest
  | cs => cs

def read? (text : String) : Option Document.Members := do
  let cs := withoutOrderMark text.toList
  let statements ← statements? (cs.length + 1) cs
  let p ← statements.foldlM Progress.add? {}
  match ← settled? (.table (documentMembers p.members)) with
  | .table members => return members
  | _ => none

end SwapDesk.Toml
