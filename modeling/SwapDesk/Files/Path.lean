import SwapDesk.Text.Split

namespace SwapDesk.Files

def isAbsolute (path : String) : Bool :=
  path.toList.head? == some '/'

/-- Whether a piece of a path names nothing: repeated slashes and single dots. -/
def isIdle (piece : List Char) : Bool :=
  piece == [] || piece == ['.']

def join (base path : String) : String :=
  if isAbsolute path then path
  else if base.isEmpty || base.toList.getLast? == some '/' then base ++ path
  else base ++ "/" ++ path

def absolute (workingDirectory path : String) : String :=
  if isAbsolute path then path else join workingDirectory path

def directoryOf (path : String) : String :=
  String.ofList (path.toList.reverse.dropWhile (· != '/')).reverse

/-- What comes below a leading directory of a relative path, without idle pieces at its ends. -/
def below? (directory : String) (path : String) : Option String :=
  match Text.pieces Text.isSlash path.toList with
  | [] => none
  | first :: rest =>
      if first = directory.toList then
        let rest := ((rest.dropWhile isIdle).reverse.dropWhile isIdle).reverse
        some (String.ofList (Text.join '/' rest))
      else none

end SwapDesk.Files
