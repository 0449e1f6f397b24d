import SwapDesk.Files.DataPath
import SwapDesk.Settings.Basic

namespace SwapDesk.Settings

def dataDirectoryIn (s : Settings) (env : Environment) : Option String :=
  (env.nonBlank? "DATA_DIR").or (s.dataDirectory.bind Text.nonBlank?)

/-- The first of a variable, a setting and a default that is not blank. -/
def rawPath (env : Environment) (name : String) (configured : Option String)
    (usual : String) : String :=
  ((env.nonBlank? name).or (configured.bind Text.nonBlank?)).getD usual

def rawTokenListPath (s : Settings) (env : Environment) : String :=
  rawPath env "TOKENLIST_PATH" s.tokenListPath "data/tokenlist.json"

def rawPoolsPath (s : Settings) (env : Environment) : String :=
  rawPath env "POOLS_PATH" s.poolsPath "data/pools.json"

def tokenListFile (s : Settings) (env : Environment) (tree : FileTree) : Except Failure String :=
  DataPath.required env tree (s.rawTokenListPath env) (s.dataDirectoryIn env)

def poolsFile (s : Settings) (env : Environment) (tree : FileTree) : Except Failure String :=
  DataPath.required env tree (s.rawPoolsPath env) (s.dataDirectoryIn env)

def dataFiles (s : Settings) (env : Environment) (workingDirectory : String) : List String :=
  [s.rawTokenListPath env, s.rawPoolsPath env].map fun raw =>
    DataPath.resolve env workingDirectory raw (s.dataDirectoryIn env)

/-- A blank URL is one, too. -/
def storeUrl (s : Settings) (env : Environment) : String :=
  ((env.get? "DATABASE_URL").or s.databaseUrl).getD "sqlite://harvest_router.db"

end SwapDesk.Settings
