import SwapDesk.Text.Hex

namespace SwapDesk.Toml

/-- Control characters stand in a text only as escapes; a tab is none of them. -/
def isControl (c : Char) : Bool :=
  (c.toNat < 32 && c != '\t') || c.toNat = 127

def isBlank (c : Char) : Bool :=
  c == ' ' || c == '\t'

def skipBlanks (cs : List Char) : List Char :=
  cs.dropWhile isBlank

def afterBreak? : List Char → Option (List Char)
  | '\n' :: rest => some rest
  | '\r' :: '\n' :: rest => some rest
  | _ => none

def skipLayout : List Char → List Char
  | '\r' :: '\n' :: rest => skipLayout rest
  | c :: rest => if isBlank c || c == '\n' then skipLayout rest else c :: rest
  | [] => []

def charOf? (n : Nat) : Option Char :=
  if n < 0xD800 ∨ (0xDFFF < n ∧ n < 0x110000) then some (Char.ofNat n) else none

def hexNumber? (cs : List Char) : Option Nat :=
  cs.foldlM (fun acc c => (Text.hexValue? c).map (acc * 16 + ·)) 0

def escape? : List Char → Option (Char × List Char)
  | 'b' :: rest => some (Char.ofNat 8, rest)
  | 't' :: rest => some ('\t', rest)
  | 'n' :: rest => some ('\n', rest)
  | 'f' :: rest => some (Char.ofNat 12, rest)
  | 'r' :: rest => some ('\r', rest)
  | '"' :: rest => some ('"', rest)
  | '\\' :: rest => some ('\\', rest)
  | 'u' :: rest => coded 4 rest
  | 'U' :: rest => coded 8 rest
  | _ => none
where
  coded (width : Nat) (cs : List Char) : Option (Char × List Char) :=
    if cs.length < width then none
    else do
      let n ← hexNumber? (cs.take width)
      let c ← charOf? n
      return (c, cs.drop width)

abbrev Reading := Option (List Char × List Char)

def basicLine? : Nat → List Char → Reading
  | 0, _ => none
  | _ + 1, [] => none
  | fuel + 1, c :: cs =>
      if c = '"' then some ([], cs)
      else if c = '\\' then do
        let (e, rest) ← escape? cs
        let (text, rest) ← basicLine? fuel rest
        return (e :: text, rest)
      else if isControl c then none
      else do
        let (text, rest) ← basicLine? fuel cs
        return (c :: text, rest)

def literalLine? : List Char → Reading
  | [] => none
  | c :: cs =>
      if c = '\'' then some ([], cs)
      else if isControl c then none
      else do
        let (text, rest) ← literalLine? cs
        return (c :: text, rest)

/-- Three to five marks in a row close a text; those before the last three belong to it. -/
def closing? (mark : Char) (cs : List Char) : Reading :=
  let marks := min 5 (cs.takeWhile (· == mark)).length
  if marks < 3 then none else some (List.replicate (marks - 3) mark, cs.drop marks)

def continued? (cs : List Char) : Option (List Char) :=
  (afterBreak? (skipBlanks cs)).map skipLayout

def basicLines? : Nat → List Char → Reading
  | 0, _ => none
  | _ + 1, [] => none
  | fuel + 1, c :: cs =>
      match closing? '"' (c :: cs), afterBreak? (c :: cs) with
      | some done, _ => some done
      | none, some rest => do
          let (text, rest) ← basicLines? fuel rest
          return ('\n' :: text, rest)
      | none, none =>
          if c = '\\' then
            match continued? cs with
            | some rest => basicLines? fuel rest
            | none => do
                let (e, rest) ← escape? cs
                let (text, rest) ← basicLines? fuel rest
                return (e :: text, rest)
          else if isControl c then none
          else do
            let (text, rest) ← basicLines? fuel cs
            return (c :: text, rest)

def literalLines? : Nat → List Char → Reading
  | 0, _ => none
  | _ + 1, [] => none
  | fuel + 1, c :: cs =>
      match closing? '\'' (c :: cs), afterBreak? (c :: cs) with
      | some done, _ => some done
      | none, some rest => do
          let (text, rest) ← literalLines? fuel rest
          return ('\n' :: text, rest)
      | none, none =>
          if isControl c then none
          else do
            let (text, rest) ← literalLines? fuel cs
            return (c :: text, rest)

def withoutFirstBreak (cs : List Char) : List Char :=
  (afterBreak? cs).getD cs

def lineString? : List Char → Reading
  | '"' :: cs => basicLine? (cs.length + 1) cs
  | '\'' :: cs => literalLine? cs
  | _ => none

def string? : List Char → Reading
  | '"' :: '"' :: '"' :: cs => basicLines? (cs.length + 1) (withoutFirstBreak cs)
  | '\'' :: '\'' :: '\'' :: cs => literalLines? (cs.length + 1) (withoutFirstBreak cs)
  | cs => lineString? cs

end SwapDesk.Toml
