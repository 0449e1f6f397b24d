import SwapDesk.Document.Value
import SwapDesk.Text.Decimal

/-!
Dates and times of day. A moment has one of them or both, and perhaps an offset from universal time.
In a document it is a table that a key marks, until the document is settled; then it is text.
-/

namespace SwapDesk.Toml

structure Date where
  year : Nat
  month : Nat
  day : Nat
deriving DecidableEq

structure Clock where
  hour : Nat
  minute : Nat
  second : Nat
  places : List Char
deriving DecidableEq

inductive Offset where
  | universal
  | minutes (n : Int)
deriving DecidableEq

structure Moment where
  date : Option Date := none
  clock : Option Clock := none
  offset : Option Offset := none
deriving DecidableEq

def padded (width n : Nat) : List Char :=
  let digits := Text.decimalDigits n
  List.replicate (width - digits.length) '0' ++ digits

def Date.chars (d : Date) : List Char :=
  padded 4 d.year ++ '-' :: padded 2 d.month ++ '-' :: padded 2 d.day

def Clock.chars (c : Clock) : List Char :=
  padded 2 c.hour ++ ':' :: padded 2 c.minute ++ ':' :: padded 2 c.second ++
    if c.places.isEmpty then [] else '.' :: c.places

def Offset.chars : Offset → List Char
  | universal => ['Z']
  | minutes n =>
      (if n < 0 then '-' else '+') :: (padded 2 (n.natAbs / 60) ++ ':' :: padded 2 (n.natAbs % 60))

namespace Moment

def chars (m : Moment) : List Char :=
  (m.date.map Date.chars).getD [] ++
    (if m.date.isSome && m.clock.isSome then ['T'] else []) ++
    (m.clock.map Clock.chars).getD [] ++ (m.offset.map Offset.chars).getD []

def text (m : Moment) : String :=
  String.ofList m.chars

end Moment

def pair? (a b : Char) : Option Nat := do
  let a ← Text.digitValue? a
  let b ← Text.digitValue? b
  return a * 10 + b

def isLeap (year : Nat) : Bool :=
  year % 4 == 0 && (year % 100 != 0 || year % 400 == 0)

def daysIn (year month : Nat) : Nat :=
  if month = 2 then if isLeap year then 29 else 28
  else if month = 4 ∨ month = 6 ∨ month = 9 ∨ month = 11 then 30 else 31

def date? : List Char → Option (Date × List Char)
  | a :: b :: c :: d :: '-' :: e :: f :: '-' :: g :: h :: rest => do
      let year := (← pair? a b) * 100 + (← pair? c d)
      let month ← pair? e f
      let day ← pair? g h
      if 1 ≤ month ∧ month ≤ 12 ∧ 1 ≤ day ∧ day ≤ daysIn year month then
        some (⟨year, month, day⟩, rest)
      else none
  | _ => none

def places? : List Char → Option (List Char × List Char)
  | '.' :: cs =>
      let ds := cs.takeWhile Char.isDigit
      if ds.isEmpty then none
      else some (((ds.take 9).reverse.dropWhile (· == '0')).reverse, cs.dropWhile Char.isDigit)
  | cs => some ([], cs)

structure MomentRules where
  lastHour : Nat
  hasOffset : Nat → Nat → Bool
  offsetAfterDate : Bool

namespace MomentRules

def plain : MomentRules where
  lastHour := 23
  hasOffset := fun hour minute => hour ≤ 23 && minute ≤ 59
  offsetAfterDate := false

def marked : MomentRules where
  lastHour := 24
  hasOffset := fun hour minute => hour * 60 + minute ≤ 24 * 60
  offsetAfterDate := true

def clock? (rules : MomentRules) : List Char → Option (Clock × List Char)
  | a :: b :: ':' :: c :: d :: ':' :: e :: f :: rest => do
      let hour ← pair? a b
      let minute ← pair? c d
      let second ← pair? e f
      if rules.lastHour < hour ∨ 59 < minute ∨ 60 < second then none
      else
        let (places, rest) ← places? rest
        some (⟨hour, minute, second, places⟩, rest)
  | _ => none

def offset? (rules : MomentRules) : List Char → Option (Option Offset)
  | [] => some none
  | [c] => if c = 'Z' ∨ c = 'z' then some (some .universal) else none
  | [sign, a, b, ':', c, d] => do
      let hour ← pair? a b
      let minute ← pair? c d
      let n : Int := ((hour * 60 + minute : Nat) : Int)
      if !rules.hasOffset hour minute then none
      else if sign = '+' then some (some (.minutes n))
      else if sign = '-' then some (some (.minutes (-n)))
      else none
  | _ => none

def moment? (rules : MomentRules) (cs : List Char) : Option Moment :=
  match date? cs with
  | none => do
      let (clock, rest) ← rules.clock? cs
      if rest.isEmpty then some { clock := some clock } else none
  | some (date, []) => some { date := some date }
  | some (date, mark :: rest) =>
      if mark = 'T' ∨ mark = 't' ∨ mark = ' ' then do
        let (clock, rest) ← rules.clock? rest
        return ⟨some date, some clock, ← rules.offset? rest⟩
      else if rules.offsetAfterDate then do
        return ⟨some date, none, ← rules.offset? (mark :: rest)⟩
      else none

end MomentRules

/-- The key that marks a table as a moment, when it comes first. -/
def momentKey : String := "$__toml_private_datetime"

def Moment.document (m : Moment) : Document :=
  .table [(momentKey, .text m.text)]

def markedText? : Document → Option Document
  | .text s => (MomentRules.marked.moment? s.toList).map fun m => .text m.text
  | _ => none

mutual

/-- A document whose moments are text; what follows the mark in its table does not matter. -/
def settled? : Document → Option Document
  | .table members => settledTable? members
  | .array items => (settledItems? items).map .array
  | d => some d

def settledTable? : Document.Members → Option Document
  | [] => some (.table [])
  | (key, v) :: rest =>
      if key = momentKey then markedText? v
      else do
        let v ← settled? v
        return .table ((key, v) :: (← settledMembers? rest))

def settledMembers? : Document.Members → Option Document.Members
  | [] => some []
  | (key, v) :: rest => do
      let v ← settled? v
      return (key, v) :: (← settledMembers? rest)

def settledItems? : List Document → Option (List Document)
  | [] => some []
  | x :: xs => do
      let x ← settled? x
      return x :: (← settledItems? xs)

end

end SwapDesk.Toml
