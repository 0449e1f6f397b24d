import SwapDesk.Text.Decimal

/-!
Finite binary floating-point numbers of 53 bits, their rounding, and the shortest decimal text that
reads back. All arithmetic is exact on natural numbers and rounded once, to nearest, ties to even.
-/

namespace SwapDesk

structure Binary64 where
  negative : Bool
  mantissa : Nat
  exponent : Int
deriving DecidableEq, Inhabited

namespace Binary64

def zero : Binary64 := ⟨false, 0, 0⟩

/-- `num / den`, a half going to the even neighbour. -/
def divideToEven (num den : Nat) : Nat :=
  let q := num / den
  let twice := 2 * (num % den)
  if twice < den then q
  else if den < twice then q + 1
  else if q % 2 = 0 then q else q + 1

def shifted (num den : Nat) (e : Int) : Nat × Nat :=
  match e with
  | .ofNat k => (num, den * 2 ^ k)
  | .negSucc k => (num * 2 ^ (k + 1), den)

def exponentFor (num den : Nat) : Int :=
  let guess : Int := (num.log2 : Int) - (den.log2 : Int) - 53
  let (n, d) := shifted num den guess
  let e := if n / d < 2 ^ 53 then guess else guess + 1
  max e (-1074)

def ofRatio (negative : Bool) (num den : Nat) : Option Binary64 :=
  if num = 0 then some ⟨negative, 0, 0⟩
  else
    let e := exponentFor num den
    let (n, d) := shifted num den e
    let m := divideToEven n d
    let (m, e) := if m = 2 ^ 53 then (2 ^ 52, e + 1) else (m, e)
    if m = 0 then some ⟨negative, 0, 0⟩
    else if 971 < e then none else some ⟨negative, m, e⟩

def ratio (x : Binary64) : Nat × Nat :=
  match x.exponent with
  | .ofNat k => (x.mantissa * 2 ^ k, 1)
  | .negSucc k => (x.mantissa, 2 ^ (k + 1))

def timesRatio (x : Binary64) (num den : Nat) : Option Binary64 :=
  let (n, d) := x.ratio
  ofRatio x.negative (n * num) (d * den)

def times (x y : Binary64) : Option Binary64 :=
  let (n, d) := y.ratio
  x.timesRatio n d

def dividedBy (x y : Binary64) : Option Binary64 :=
  let (n, d) := y.ratio
  x.timesRatio d n

def powerOfTen (k : Nat) : Option Binary64 :=
  ofRatio false (10 ^ k) 1

/-- A significand scaled by a power of ten. Both are rounded first and the product or quotient
again, in steps of at most 308 decimal places; none when the result would be too large. -/
def scaleByTen (negative : Bool) (significand : Nat) (exponent : Int) : Option Binary64 := do
  let x ← ofRatio negative significand 1
  match exponent with
  | .ofNat k =>
      if k ≤ 308 then x.times (← powerOfTen k)
      else if x.mantissa = 0 then some x else none
  | .negSucc k => shrink x (k + 1) (k + 1)
where
  shrink (x : Binary64) (k : Nat) : Nat → Option Binary64
    | 0 => some x
    | fuel + 1 => do
        if k ≤ 308 then x.dividedBy (← powerOfTen k)
        else if x.mantissa = 0 then some x
        else shrink (← x.dividedBy (← powerOfTen 308)) (k - 308) fuel

/-- The decimal numbers that round to `x` lie between `low` and `high`, all over `den`. -/
structure Span where
  low : Nat
  value : Nat
  high : Nat
  den : Nat
  closed : Bool

def span (x : Binary64) : Span :=
  let narrow := x.mantissa = 2 ^ 52 ∧ -1074 < x.exponent
  let below := if narrow then 4 * x.mantissa - 1 else 4 * x.mantissa - 2
  let above := 4 * x.mantissa + 2
  let even := x.mantissa % 2 == 0
  match x.exponent with
  | .ofNat k => ⟨below * 2 ^ k, 4 * x.mantissa * 2 ^ k, above * 2 ^ k, 4, even⟩
  | .negSucc k => ⟨below, 4 * x.mantissa, above, 4 * 2 ^ (k + 1), even⟩

def Span.holds (s : Span) (c : Nat) (g : Int) : Bool :=
  let (left, scale) := match g with
    | .ofNat k => (c * 10 ^ k * s.den, 1)
    | .negSucc k => (c * s.den, 10 ^ (k + 1))
  if s.closed then s.low * scale ≤ left && left ≤ s.high * scale
  else s.low * scale < left && left < s.high * scale

def Span.distance (s : Span) (c : Nat) (g : Int) : Nat :=
  let (left, right) := match g with
    | .ofNat k => (c * 10 ^ k * s.den, s.value)
    | .negSucc k => (c * s.den, s.value * 10 ^ (k + 1))
  (left - right) + (right - left)

def Span.floor (s : Span) (g : Int) : Nat :=
  match g with
  | .ofNat k => s.value / (s.den * 10 ^ k)
  | .negSucc k => s.value * 10 ^ (k + 1) / s.den

def Span.pick (s : Span) (g : Int) : Option Nat :=
  let c := s.floor g
  match s.holds c g && 0 < c, s.holds (c + 1) g with
  | true, true =>
      let a := s.distance c g
      let b := s.distance (c + 1) g
      if a < b then some c
      else if b < a then some (c + 1)
      else some (if c % 2 = 0 then c else c + 1)
  | true, false => some c
  | false, true => some (c + 1)
  | false, false => none

def Span.search (s : Span) (g : Int) : Nat → Nat × Int
  | 0 => (s.floor g, g)
  | steps + 1 =>
      match s.pick g with
      | some c => (c, g)
      | none => s.search (g - 1) steps

def stripZeros (c : Nat) (g : Int) : Nat → Nat × Int
  | 0 => (c, g)
  | fuel + 1 => if c % 10 = 0 ∧ c ≠ 0 then stripZeros (c / 10) (g + 1) fuel else (c, g)

def shortest (x : Binary64) : Nat × Int :=
  let s := x.span
  let size : Int := ((decimalLength s.value : Nat) : Int) - ((decimalLength s.den : Nat) : Int)
  let (c, g) := s.search (size + 1) 400
  stripZeros c g 400
where
  decimalLength (n : Nat) : Nat := (Text.decimalDigits n).length

def exponentChars (e : Int) : List Char :=
  if 0 ≤ e then '+' :: (Text.integer e).toList else (Text.integer e).toList

/-- Positional between 10^-5 and 10^16, with a fraction always; otherwise with an exponent. -/
def text (x : Binary64) : String :=
  let sign := if x.negative then "-" else ""
  if x.mantissa = 0 then sign ++ "0.0"
  else
    let (c, g) := x.shortest
    let digits := Text.decimalDigits c
    let point : Int := (digits.length : Int) + g
    let body : List Char :=
      if 0 ≤ g ∧ point ≤ 16 then digits ++ List.replicate g.toNat '0' ++ ['.', '0']
      else if 0 < point ∧ point ≤ 16 then
        digits.take point.toNat ++ '.' :: digits.drop point.toNat
      else if -5 < point ∧ point ≤ 0 then
        '0' :: '.' :: (List.replicate (-point).toNat '0' ++ digits)
      else
        let tail := if digits.length = 1 then [] else '.' :: digits.drop 1
        digits.take 1 ++ tail ++ 'e' :: exponentChars (point - 1)
    sign ++ String.ofList body

/-- Positional at any size, with a fraction only where one is needed. -/
def plainText (x : Binary64) : String :=
  let sign := if x.negative then "-" else ""
  if x.mantissa = 0 then sign ++ "0"
  else
    let (c, g) := x.shortest
    let digits := Text.decimalDigits c
    let point : Int := (digits.length : Int) + g
    let body : List Char :=
      if 0 ≤ g then digits ++ List.replicate g.toNat '0'
      else if 0 < point then digits.take point.toNat ++ '.' :: digits.drop point.toNat
      else '0' :: '.' :: (List.replicate (-point).toNat '0' ++ digits)
    sign ++ String.ofList body

end Binary64

end SwapDesk
