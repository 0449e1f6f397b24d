import SwapDesk.Text.Blank
import SwapDesk.Text.Percent

/-!
Where an audit store is kept, by its URL: `sqlite:`, a name, and parameters after a question mark. A
name that starts with `file:` is a URL once more, with parameters of its own.
-/

namespace SwapDesk

inductive StoreAccess where
  | read
  | write
  | create
deriving DecidableEq

inductive StoreMedium where
  | memory
  | file (path : String)
deriving DecidableEq

structure StorePlace where
  medium : StoreMedium
  access : StoreAccess
deriving DecidableEq

namespace StorePlace

structure Wishes where
  inMemory : Bool := false
  fixed : Bool := false
  access : StoreAccess := .create
  system : Option String := none

namespace Wishes

def cacheModes : List String := ["private", "shared"]

def flag? (text : String) : Option Bool :=
  if ["true", "1"].contains text then some true
  else if ["false", "0"].contains text then some false
  else none

/-- How a parameter bears on the wishes; none if it is not understood. Reading only is for good. -/
def with? (w : Wishes) : String × String → Option Wishes
  | ("mode", "ro") => some { w with access := .read }
  | ("mode", "rw") => some w
  | ("mode", "rwc") => some w
  | ("mode", "memory") => some { w with inMemory := true }
  | ("cache", mode) => if cacheModes.contains mode then some w else none
  | ("immutable", text) => (flag? text).map fun b => { w with fixed := b }
  | ("vfs", name) => some { w with system := some name }
  | _ => none

def systems : List String :=
  ["unix", "unix-none", "unix-dotfile", "unix-excl", "memdb"]

def place? (w : Wishes) (name : List Char) : Option StorePlace :=
  if w.system.any (!systems.contains ·) then none
  else
    let inMemory := w.inMemory || name.isEmpty || name == ":memory:".toList ||
      w.system == some "memdb"
    let access := if w.fixed && !inMemory then .read else w.access
    some ⟨if inMemory then .memory else .file (String.ofList name), access⟩

end Wishes

def nestedPart? (cs : List Char) : Option (List Char) :=
  Text.ofUtf8? ((Text.percentDecoded (Text.utf8 cs)).takeWhile (· != 0))

/-- How an access mode inside a name bears on the wishes. It may not ask for more than was granted,
unless the store is in memory. -/
def nestedMode? (w : Wishes) (mode : String) : Option Wishes :=
  let granted (access : StoreAccess) : Option Wishes :=
    if w.access = .read ∧ access ≠ .read ∧ !w.inMemory then none
    else some { w with access := access, inMemory := false }
  if mode = "ro" then granted .read
  else if mode = "rw" then granted .write
  else if mode = "rwc" then granted .create
  else if mode = "memory" then some { w with access := .create, inMemory := true }
  else none

def nestedWish? (w : Wishes) : String × String → Option Wishes
  | ("mode", mode) => nestedMode? w mode
  | ("cache", mode) => if Wishes.cacheModes.contains mode then some w else none
  | ("immutable", text) =>
      some { w with fixed := ["1", "yes", "true", "on"].contains (Text.lowerAscii text) }
  | ("vfs", name) => some { w with system := some name }
  | _ => some w

def nestedFields? (cs : List Char) : Option (List (String × String)) :=
  let named := (Text.runs (· == '&') cs).filter fun field => field.head? != some '='
  named.mapM fun field => do
    let (name, value) := Text.cutAt '=' field
    return (String.ofList (← nestedPart? name), String.ofList (← nestedPart? value))

/-- What follows an authority, which has to be empty or this machine. -/
def afterAuthority? : List Char → Option (List Char)
  | '/' :: '/' :: rest =>
      let authority := rest.takeWhile (· != '/')
      if authority.isEmpty || authority == "localhost".toList then
        some (rest.dropWhile (· != '/'))
      else none
  | cs => some cs

def nestedPlace? (w : Wishes) (cs : List Char) : Option StorePlace := do
  let cs ← afterAuthority? cs
  let (path, parameters) := Text.cutAt '?' (cs.takeWhile (· != '#'))
  let w ← (← nestedFields? parameters).foldlM nestedWish? w
  w.place? (← nestedPart? path)

def dropRepeated (mark : List Char) : Nat → List Char → List Char
  | 0, cs => cs
  | fuel + 1, cs =>
      if mark ≠ [] ∧ mark.isPrefixOf cs then dropRepeated mark fuel (cs.drop mark.length) else cs

def withoutScheme (cs : List Char) : List Char :=
  let cs := dropRepeated "sqlite://".toList cs.length cs
  dropRepeated "sqlite:".toList cs.length cs

/-- The place of a store. Names are taken literally where a file system or an unchanging file is
asked for. -/
def ofUrl? (url : String) : Option StorePlace := do
  let (name, parameters) := Text.cutAt '?' (withoutScheme url.toList)
  let name ← if name = ":memory:".toList then some name else Text.percentDecode? name
  let usual : Wishes := { inMemory := name == ":memory:".toList }
  let w ← (← Text.formFields? parameters).foldlM Wishes.with? usual
  if name.any (·.toNat == 0) then none
  else if w.system.isNone && !w.fixed && "file:".toList.isPrefixOf name then
    nestedPlace? w (name.drop 5)
  else w.place? name

end StorePlace

end SwapDesk
