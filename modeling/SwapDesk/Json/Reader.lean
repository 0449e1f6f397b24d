import SwapDesk.Json.Value
import SwapDesk.Text.Hex

/-!
Reading JSON text. A text is first taken apart as written, with repeated members, numerals and
malformed escapes still visible, because readers of records care about those; `Written.toJson?`
then gives the value, and refuses what has none.
-/

namespace SwapDesk.Json

structure Numeral where
  negative : Bool
  whole : List Char
  fraction : Option (List Char)
  exponent : Option (Bool × List Char)
deriving Inhabited

/-- A text as written. A string is `none` when one of its escapes names no character. -/
inductive Written where
  | null
  | bool (b : Bool)
  | number (n : Numeral)
  | string (s : Option String)
  | array (items : List Written)
  | object (members : List (Option String × Written))
  /-- What a comma right before the closing bracket of an array promises. -/
  | missing
deriving Inhabited

def isGap (c : Char) : Bool :=
  c == ' ' || c == '\t' || c == '\n' || c == '\r'

def skipGaps (cs : List Char) : List Char :=
  cs.dropWhile isGap

inductive Piece where
  | char (c : Char)
  | unit (n : Nat)

def fourHex? (a b c d : Char) : Option Nat := do
  let a ← Text.hexValue? a
  let b ← Text.hexValue? b
  let c ← Text.hexValue? c
  let d ← Text.hexValue? d
  return ((a * 16 + b) * 16 + c) * 16 + d

def simpleEscape? (c : Char) : Option Char :=
  if c = '"' ∨ c = '\\' ∨ c = '/' then some c
  else if c = 'b' then some (Char.ofNat 8)
  else if c = 'f' then some (Char.ofNat 12)
  else if c = 'n' then some '\n'
  else if c = 'r' then some '\r'
  else if c = 't' then some '\t'
  else none

def pieces? : List Char → Option (List Piece × List Char)
  | [] => none
  | '"' :: rest => some ([], rest)
  | '\\' :: 'u' :: a :: b :: c :: d :: rest => do
      let n ← fourHex? a b c d
      let (ps, rest) ← pieces? rest
      return (.unit n :: ps, rest)
  | '\\' :: e :: rest => do
      let c ← simpleEscape? e
      let (ps, rest) ← pieces? rest
      return (.char c :: ps, rest)
  | c :: rest =>
      if c.toNat < 32 ∨ c = '\\' then none
      else do
        let (ps, rest) ← pieces? rest
        return (.char c :: ps, rest)

/-- Joins paired units; a unit without its partner names no character. -/
def assemble? : List Piece → Option (List Char)
  | [] => some []
  | .char c :: ps => (assemble? ps).map (c :: ·)
  | .unit n :: ps =>
      if n < 0xD800 ∨ 0xDFFF < n then (assemble? ps).map (Char.ofNat n :: ·)
      else if 0xDC00 ≤ n then none
      else match ps with
        | .unit m :: ps =>
            if 0xDC00 ≤ m ∧ m ≤ 0xDFFF then
              (assemble? ps).map (Char.ofNat (0x10000 + (n - 0xD800) * 0x400 + (m - 0xDC00)) :: ·)
            else none
        | _ => none

def string? (cs : List Char) : Option (Option String × List Char) := do
  let (ps, rest) ← pieces? cs
  return ((assemble? ps).map String.ofList, rest)

def digitRun (cs : List Char) : List Char × List Char :=
  (cs.takeWhile Char.isDigit, cs.dropWhile Char.isDigit)

def fraction? (cs : List Char) : Option (Option (List Char) × List Char) :=
  match cs with
  | '.' :: rest =>
      let (ds, rest) := digitRun rest
      if ds.isEmpty then none else some (some ds, rest)
  | _ => some (none, cs)

def exponentDigits? (negative : Bool) (cs : List Char) :
    Option (Option (Bool × List Char) × List Char) :=
  let (ds, rest) := digitRun cs
  if ds.isEmpty then none else some (some (negative, ds), rest)

def exponent? (cs : List Char) : Option (Option (Bool × List Char) × List Char) :=
  let signed (rest : List Char) := match rest with
    | '-' :: rest => exponentDigits? true rest
    | '+' :: rest => exponentDigits? false rest
    | rest => exponentDigits? false rest
  match cs with
  | 'e' :: rest => signed rest
  | 'E' :: rest => signed rest
  | _ => some (none, cs)

def numeral? (negative : Bool) (cs : List Char) : Option (Numeral × List Char) := do
  let (whole, rest) := digitRun cs
  if whole.isEmpty ∨ (whole.head? = some '0' ∧ whole.length ≠ 1) then none
  else
    let (frac, rest) ← fraction? rest
    let (exp, rest) ← exponent? rest
    return (⟨negative, whole, frac, exp⟩, rest)

def after? : List Char → List Char → Option (List Char)
  | [], cs => some cs
  | w :: ws, c :: cs => if w = c then after? ws cs else none
  | _ :: _, [] => none

mutual

def written? : Nat → List Char → Option (Written × List Char)
  | 0, _ => none
  | fuel + 1, cs =>
      match skipGaps cs with
      | [] => none
      | 'n' :: rest => (after? ['u', 'l', 'l'] rest).map (.null, ·)
      | 't' :: rest => (after? ['r', 'u', 'e'] rest).map (.bool true, ·)
      | 'f' :: rest => (after? ['a', 'l', 's', 'e'] rest).map (.bool false, ·)
      | '"' :: rest => (string? rest).map fun (s, rest) => (.string s, rest)
      | '-' :: rest => (numeral? true rest).map fun (n, rest) => (.number n, rest)
      | '[' :: rest =>
          match skipGaps rest with
          | ']' :: rest => some (.array [], rest)
          | rest => (items? fuel rest).map fun (xs, rest) => (.array xs, rest)
      | '{' :: rest =>
          match skipGaps rest with
          | '}' :: rest => some (.object [], rest)
          | rest => (members? fuel rest).map fun (ms, rest) => (.object ms, rest)
      | rest => (numeral? false rest).map fun (n, rest) => (.number n, rest)

def items? : Nat → List Char → Option (List Written × List Char)
  | 0, _ => none
  | fuel + 1, cs => do
      let (x, rest) ← written? fuel cs
      match skipGaps rest with
      | ',' :: rest =>
          match skipGaps rest with
          | ']' :: rest => return ([x, .missing], rest)
          | rest => do
              let (xs, rest) ← items? fuel rest
              return (x :: xs, rest)
      | ']' :: rest => return ([x], rest)
      | _ => none

def members? : Nat → List Char → Option (List (Option String × Written) × List Char)
  | 0, _ => none
  | fuel + 1, cs => do
      match skipGaps cs with
      | '"' :: rest => do
          let (key, rest) ← string? rest
          match skipGaps rest with
          | ':' :: rest => do
              let (value, rest) ← written? fuel rest
              match skipGaps rest with
              | ',' :: rest => do
                  let (ms, rest) ← members? fuel rest
                  return ((key, value) :: ms, rest)
              | '}' :: rest => return ([(key, value)], rest)
              | _ => none
          | _ => none
      | _ => none

end

def write? (s : String) : Option Written := do
  let cs := s.toList
  let (w, rest) ← written? (cs.length + 1) cs
  if (skipGaps rest).isEmpty then some w else none

def significand (acc : Nat) : List Char → Nat × List Char
  | [] => (acc, [])
  | c :: cs =>
      let next := acc * 10 + (c.toNat - '0'.toNat)
      if next < 2 ^ 64 then significand next cs else (acc, c :: cs)

def Numeral.exponentValue (n : Numeral) : Int :=
  match n.exponent with
  | none => 0
  | some (negative, ds) =>
      let e := (Text.digitsValueFrom? 0 ds).getD 0
      if negative then -(e : Int) else e

/-- Integers of 64 bits keep their value; a negative zero and everything else is binary. -/
def Numeral.toJson? (n : Numeral) : Option Json :=
  let (whole, excess) := significand 0 n.whole
  let asReal (m : Nat) (e : Int) : Option Json :=
    let e := e + n.exponentValue
    if m = 0 then some (.real { Binary64.zero with negative := n.negative })
    else if 2 ^ 31 ≤ n.exponentValue then none
    else if n.exponentValue ≤ -(2 ^ 31) then
      some (.real { Binary64.zero with negative := n.negative })
    else (Binary64.scaleByTen n.negative m e).map .real
  match n.fraction, n.exponent with
  | none, none =>
      if !excess.isEmpty then asReal whole excess.length
      else if !n.negative then some (.int whole)
      else if whole = 0 then asReal 0 0
      else if whole ≤ 2 ^ 63 then some (.int (-(whole : Int)))
      else asReal whole 0
  | fraction, _ =>
      let (m, dropped) := significand whole (fraction.getD [])
      asReal m ((excess.length : Int) - ((fraction.getD []).length - dropped.length : Int))

/-- Arrays and objects nest at most `depth` deep. -/
def Written.toJson? : Nat → Written → Option Json
  | _, .null => some .null
  | _, .bool b => some (.bool b)
  | _, .number n => n.toJson?
  | _, .string s => s.map .string
  | depth + 1, .array items => (items.mapM (toJson? depth)).map .array
  | depth + 1, .object members => do
      let ms ← members.mapM fun m => do
        let key ← m.1
        let value ← toJson? depth m.2
        return (key, value)
      return ofMembers ms
  | _, .missing => none
  | 0, .array _ => none
  | 0, .object _ => none

def nestingLimit : Nat := 127

def parse? (s : String) : Option Json := do
  let w ← write? s
  w.toJson? nestingLimit

end SwapDesk.Json
