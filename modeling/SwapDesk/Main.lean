import SwapDesk.CommandLine.Run
import SwapDesk.Settings.Printer

/-!
The program. It looks at the environment and at the files that the command line and the settings
name, and prints what the run prints. It has no transport of its own, so every endpoint is out of
reach, and nothing is ever sent or recorded.
-/

namespace SwapDesk.Program

def content? (path : String) : IO (Option String) := do
  try
    let text ← IO.FS.readFile path
    return some text
  catch _ => return none

def contents (workingDirectory : String) (paths : List String) : IO (List (String × String)) :=
  paths.filterMapM fun path => do
    let path := Files.absolute workingDirectory path
    return (← content? path).map (path, ·)

def isDirectory (path : String) : IO Bool := do
  try
    (← IO.FS.realPath path).isDir
  catch _ => return false

def settingNames : List String :=
  match ({} : Settings).toJson with
  | .object members => members.map (·.1)
  | _ => []

def variableNames : List String :=
  settingNames ++ settingNames.map Text.upperAscii ++ ["http_provider"]

def chainVariableNames (chains : List UInt64) : List String :=
  chains.map fun chain => "http_provider_" ++ Text.decimal chain.toNat

def environment (names : List String) : IO Environment :=
  names.filterMapM fun name => do
    return (← IO.getEnv name).map (name, ·)

def readVariable? (cs : List Char) : Option (String × String) :=
  match cs.dropWhile (· != '=') with
  | [] => none
  | _ :: value => some (String.ofList (cs.takeWhile (· != '=')), String.ofList value)

/-- All variables where the system lists them, and else those that are known to bear on a run. -/
def allVariables : IO Environment := do
  match ← content? "/proc/self/environ" with
  | some text => return (Text.runs (·.toNat == 0) text.toList).filterMap readVariable?
  | none => environment variableNames

def documentPaths (workingDirectory : String) (inv : CommandLine.Invocation) : List String :=
  let path := Files.absolute workingDirectory (inv.config.getD "config")
  path :: (Settings.completed? path).toList

def withSettings (inv : CommandLine.Invocation) (around : Surroundings) (s : Settings) :
    IO Surroundings := do
  let chains := inv.chain.toList ++ s.chains
  let env := around.env ++ (← environment (chainVariableNames chains))
  let here := around.tree.workingDirectory
  let data ← contents here (s.dataFiles env here)
  let places ← match (StorePlace.ofUrl? (s.storeUrl env)).map StorePlace.medium with
    | some (.file path) =>
        let directory := Files.directoryOf (Files.absolute here path)
        pure (if ← isDirectory directory then [directory] else [])
    | _ => pure []
  let tree := { around.tree with
    files := around.tree.files ++ data
    directories := around.tree.directories ++ places }
  return { around with env, tree }

def surroundings (inv : CommandLine.Invocation) : IO Surroundings := do
  let here := (← IO.currentDir).toString
  let env ← allVariables
  let files ← contents here (documentPaths here inv)
  let around : Surroundings :=
    ⟨env, { workingDirectory := here, files := files }, fun _ => Endpoint.unreachable⟩
  match Settings.load env around.tree inv.config with
  | .error _ => return around
  | .ok s => withSettings inv around s

def freshUid : IO String := do
  let n ← IO.rand 0 (2 ^ 62)
  return String.ofList (Text.hexDigits n)

def report (outcome : CommandLine.Outcome) : IO UInt32 := do
  for line in outcome.lines do
    IO.println line
  match outcome.ending with
  | .failed failure => IO.eprintln ("Error: " ++ failure.message)
  | .refused .misuse => IO.eprintln "error: the command line is not understood"
  | _ => pure ()
  return outcome.ending.status

def run (tokens : List String) : IO UInt32 := do
  match CommandLine.read tokens with
  | .error why => report { ending := .refused why, shelf := [] }
  | .ok inv =>
      let around ← surroundings inv
      let desk : CommandLine.Desk := { around, freshUid := ← freshUid }
      report (CommandLine.invoke desk inv)

end SwapDesk.Program

def main (tokens : List String) : IO UInt32 :=
  SwapDesk.Program.run tokens
