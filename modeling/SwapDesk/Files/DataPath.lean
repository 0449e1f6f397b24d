import SwapDesk.Failure
import SwapDesk.Files.Tree
import SwapDesk.Settings.Environment

namespace SwapDesk.DataPath

def directory? (env : Environment) (asked : Option String) : Option String :=
  (asked.bind Text.nonBlank?).or (env.nonBlank? "DATA_DIR")

def resolve (env : Environment) (workingDirectory raw : String) (asked : Option String) : String :=
  if Files.isAbsolute raw then raw
  else match directory? env asked with
    | some dir =>
        Files.join (Files.absolute workingDirectory dir) ((Files.below? "data" raw).getD raw)
    | none => Files.absolute workingDirectory raw

def required (env : Environment) (tree : FileTree) (raw : String) (asked : Option String) :
    Except Failure String :=
  let path := resolve env tree.workingDirectory raw asked
  if tree.fileExists path then .ok path else .error (.config (.missingData path))

end SwapDesk.DataPath
