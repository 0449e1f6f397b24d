import SwapDesk.Document.Value
import SwapDesk.Text.Split
import SwapDesk.Toml.Moment
import SwapDesk.Toml.Text

namespace SwapDesk.Toml

def digits? (digit? : Char → Option Nat) (cs : List Char) : Option (List Nat) :=
  let groups := Text.pieces (· == '_') cs
  if groups.any List.isEmpty then none else groups.flatten.mapM digit?

def numberOf (base : Nat) (digits : List Nat) : Nat :=
  digits.foldl (fun acc d => acc * base + d) 0

def digitBelow? (base : Nat) (c : Char) : Option Nat :=
  (Text.hexValue? c).filter (· < base)

def whole? (cs : List Char) : Option (List Nat) :=
  if cs.head? = some '0' ∧ cs.length ≠ 1 then none else digits? Text.digitValue? cs

def unsign : List Char → Bool × List Char
  | '-' :: rest => (true, rest)
  | '+' :: rest => (false, rest)
  | cs => (false, cs)

def within64 (negative : Bool) (n : Nat) : Option Document :=
  if negative then if n ≤ 2 ^ 63 then some (.integer (-(n : Int))) else none
  else if n < 2 ^ 63 then some (.integer n) else none

def based? (base : Nat) (cs : List Char) : Option Document := do
  let ds ← digits? (digitBelow? base) cs
  within64 false (numberOf base ds)

def integer? : List Char → Option Document
  | '0' :: 'x' :: cs => based? 16 cs
  | '0' :: 'o' :: cs => based? 8 cs
  | '0' :: 'b' :: cs => based? 2 cs
  | cs => do
      let (negative, body) := unsign cs
      let ds ← whole? body
      within64 negative (numberOf 10 ds)

def splitAtFirst (p : Char → Bool) (cs : List Char) : List Char × Option (List Char) :=
  match cs.dropWhile fun c => !p c with
  | [] => (cs, none)
  | _ :: rest => (cs.takeWhile fun c => !p c, some rest)

def nearest (negative : Bool) (m : Nat) (e : Int) : Real :=
  let size : Int := (Text.decimalDigits m).length
  let rounded :=
    if m = 0 ∨ size + e < -400 then some { Binary64.zero with negative := negative }
    else if 400 < size + e then none
    else match e with
      | .ofNat k => Binary64.ofRatio negative (m * 10 ^ k) 1
      | .negSucc k => Binary64.ofRatio negative m (10 ^ (k + 1))
  (rounded.map .finite).getD (.infinite negative)

def exponentOf? : Option (List Char) → Option Int
  | none => some 0
  | some cs => do
      let (down, body) := unsign cs
      let n := numberOf 10 (← digits? Text.digitValue? body)
      return if down then -(n : Int) else n

/-- A number with a fraction or an exponent. It may be too far below zero for a finite one, but not
too far above. -/
def real? (cs : List Char) : Option Document := do
  let (negative, body) := unsign cs
  let (mantissa, exponent?) := splitAtFirst (fun c => c == 'e' || c == 'E') body
  let (whole, fraction?) := splitAtFirst (· == '.') mantissa
  if exponent?.isNone ∧ fraction?.isNone then none
  else
    let whole ← whole? whole
    let fraction ← match fraction? with
      | none => some []
      | some cs => digits? Text.digitValue? cs
    let exponent ← exponentOf? exponent?
    match nearest negative (numberOf 10 (whole ++ fraction)) (exponent - fraction.length) with
    | .infinite false => none
    | x => some (.real x)

def beyond? (cs : List Char) : Option Document :=
  match unsign cs with
  | (negative, ['i', 'n', 'f']) => some (.real (.infinite negative))
  | (_, ['n', 'a', 'n']) => some (.real .notANumber)
  | _ => none

def moment? (cs : List Char) : Option Document :=
  (MomentRules.plain.moment? cs).map Moment.document

def isWordChar (c : Char) : Bool :=
  c.isAlphanum || c == '_' || c == '-' || c == '+' || c == '.' || c == ':'

/-- The word at the front; a blank may stand between a date and its time. -/
def word (cs : List Char) : List Char × List Char :=
  let w := cs.takeWhile isWordChar
  match date? w, cs.dropWhile isWordChar with
  | some (_, []), ' ' :: d :: rest =>
      if d.isDigit then
        (w ++ ' ' :: (d :: rest).takeWhile isWordChar, (d :: rest).dropWhile isWordChar)
      else (w, ' ' :: d :: rest)
  | _, rest => (w, rest)

def scalar? (w : List Char) : Option Document :=
  if w = "true".toList then some (.flag true)
  else if w = "false".toList then some (.flag false)
  else (integer? w).or ((real? w).or ((beyond? w).or (moment? w)))

end SwapDesk.Toml
