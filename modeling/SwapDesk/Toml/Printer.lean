import SwapDesk.Json.Printer

namespace SwapDesk.Toml

mutual

def valueChars : Json → List Char
  | .array xs => '[' :: (itemsChars xs ++ [']'])
  | .object ms => '{' :: (inlineChars ms ++ ['}'])
  | j => j.chars

def itemsChars : List Json → List Char
  | [] => []
  | [x] => valueChars x
  | x :: y :: rest => valueChars x ++ ',' :: itemsChars (y :: rest)

def inlineChars : List (String × Json) → List Char
  | [] => []
  | [(key, v)] => entryChars key v
  | (key, v) :: m :: rest => entryChars key v ++ ',' :: inlineChars (m :: rest)

def entryChars (key : String) (v : Json) : List Char :=
  Json.stringChars key ++ '=' :: valueChars v

end

def linesChars : List (String × Json) → List Char
  | [] => []
  | (key, v) :: rest => entryChars key v ++ '\n' :: linesChars rest

def render (members : List (String × Json)) : String :=
  String.ofList (linesChars members)

end SwapDesk.Toml
