import SwapDesk.Document.Place
import SwapDesk.Files.Tree
import SwapDesk.Settings.ValueRules
import SwapDesk.Settings.Wallet
import SwapDesk.Toml.Reader

/-!
Loading settings: the configuration file under the environment, whose variables are members by their
names in lower case.
-/

namespace SwapDesk.Settings

def environmentMembers (env : Environment) : Document.Members :=
  env.map fun v => (Unicode.lowercase v.1, .text v.2)

/-- A chain list of the environment is read once more, and then speaks for itself. -/
def withChains (env : Environment) (s : Settings) : Except ConfigFault Settings :=
  match env.get? "CHAINS" with
  | none => .ok s
  | some text => (ChainList.read text).map fun chains => { s with chains := chains }

def checked (s : Settings) : Except ConfigFault Settings :=
  if s.chains.isEmpty then .error .noChains
  else if s.production && s.key?.isNone then .error .keyNeededInProduction
  else .ok s

def ofMembers (env : Environment) (members : Document.Members) : Except ConfigFault Settings := do
  let s ← read .lenient members
  let s ← withChains env s
  checked s

def namesDocument (path : String) : Bool :=
  let name := ((Text.pieces Text.isSlash path.toList).getLast?).getD []
  ".toml".toList.isSuffixOf name && 5 < name.length

def completed? (path : String) : Option String :=
  match (Text.pieces Text.isSlash path.toList).reverse.dropWhile Files.isIdle with
  | [] => none
  | name :: before =>
      if name = ['.', '.'] then none
      else some (String.ofList (Text.join '/' (before.reverse ++ [name ++ ".toml".toList])))

def documentText? (tree : FileTree) (path : String) : Option String :=
  let path := Files.absolute tree.workingDirectory path
  match tree.text? path with
  | some text => if namesDocument path then some text else none
  | none => (completed? path).bind tree.text?

/-- The document to read: a path that was asked for has to be there, the usual one need not. -/
def document (tree : FileTree) : Option String → Except ConfigFault Document.Members
  | some path => readable ((documentText? tree path).bind Toml.read?)
  | none =>
      match documentText? tree "config" with
      | none => .ok []
      | some text => readable (Toml.read? text)

def reported (fault : ConfigFault) : Halt :=
  .failed (.config fault)

/-- The settings of a run. A name that spells a place before the start of an array is beyond
reporting. -/
def load (env : Environment) (tree : FileTree) (path : Option String) : Except Halt Settings := do
  let members ← (document tree path).mapError reported
  match Document.layered? [members, environmentMembers env] with
  | none => .error .crashed
  | some whole => (ofMembers env whole.members).mapError reported

end SwapDesk.Settings
