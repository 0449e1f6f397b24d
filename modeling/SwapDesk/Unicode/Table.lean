import SwapDesk.Text.Hex
import SwapDesk.Text.Split

/-!
Tables of characters, as the Unicode standard has them. A table is a row of runs in ascending order
that do not overlap; the text of a run is `first-last/step>given`, all in hexadecimal, in which
everything but `first` may be left out.
-/

namespace SwapDesk.Unicode

structure Run where
  first : Nat
  last : Nat
  step : Nat
  given : List Nat
deriving Inhabited

namespace Run

def holds (r : Run) (n : Nat) : Bool :=
  r.first ≤ n && n ≤ r.last && (n - r.first) % r.step == 0

/-- What a code point becomes: it keeps its distance from the first one, and only texts of one
character are given to more than one. -/
def image (r : Run) (n : Nat) : List Nat :=
  r.given.map (· + (n - r.first))

end Run

def halves (mark : Char) (absent : List Char) (cs : List Char) : List Char × List Char :=
  match cs.dropWhile (· != mark) with
  | [] => (cs, absent)
  | _ :: rest => (cs.takeWhile (· != mark), rest)

def number? (cs : List Char) : Option Nat :=
  cs.foldlM (fun acc c => (Text.hexValue? c).map (acc * 16 + ·)) 0

def Run.ofChars? (cs : List Char) : Option Run := do
  let (place, given) := halves '>' [] cs
  let (range, step) := halves '/' ['1'] place
  let (first, last) := halves '-' range range
  return {
    first := ← number? first
    last := ← number? last
    step := ← number? step
    given := ← (Text.runs (· == '+') given).mapM number? }

abbrev Table := Array Run

namespace Table

def ofLines (lines : List String) : Table :=
  (lines.flatMap fun line =>
    (Text.runs (· == ' ') line.toList).filterMap Run.ofChars?).toArray

/-- How many runs start at a code point or before it: at least `low` of them, and at most `high`. -/
def countFrom (t : Table) (n low high : Nat) : Nat :=
  if h : low < high then
    let middle := low + (high - low) / 2
    if (t[middle]?.map Run.first).any (· ≤ n) then countFrom t n (middle + 1) high
    else countFrom t n low middle
  else low
termination_by high - low

def run? (t : Table) (n : Nat) : Option Run :=
  match countFrom t n 0 t.size with
  | 0 => none
  | k + 1 => (t[k]?).filter (·.holds n)

def holds (t : Table) (c : Char) : Bool :=
  (t.run? c.toNat).isSome

def image? (t : Table) (c : Char) : Option (List Char) :=
  (t.run? c.toNat).map fun r => (r.image c.toNat).map Char.ofNat

def value (t : Table) (c : Char) : Nat :=
  ((t.run? c.toNat).bind fun r => r.given.head?).getD 0

end Table

end SwapDesk.Unicode
