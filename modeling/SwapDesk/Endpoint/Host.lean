import SwapDesk.Domain.Name
import SwapDesk.Text.Decimal
import SwapDesk.Text.Percent

namespace SwapDesk.Host

def isForbidden (c : Char) : Bool :=
  c.toNat = 0 || "\t\n\r #/:<>?@[\\]^|".toList.contains c

def isForbiddenInDomain (c : Char) : Bool :=
  isForbidden c || c.toNat ≤ 31 || c == '%' || c.toNat = 127

/-- A part of an address of four bytes: decimal, octal after `0`, hexadecimal after `0x`. -/
def addressPart? (cs : List Char) : Option Nat :=
  let digits (base : Nat) (ds : List Char) : Option Nat :=
    ds.foldlM (fun acc c => ((Text.hexValue? c).filter (· < base)).map (acc * base + ·)) 0
  match cs with
  | [] => none
  | '0' :: 'x' :: ds => digits 16 ds
  | '0' :: 'X' :: ds => digits 16 ds
  | '0' :: ds => digits 8 ds
  | ds => digits 10 ds

def labels (host : List Char) : List (List Char) :=
  let ls := Text.pieces (· == '.') host
  if 1 < ls.length ∧ ls.getLast? = some [] then ls.dropLast else ls

def endsInNumber (host : List Char) : Bool :=
  match (labels host).getLast? with
  | none => false
  | some last =>
      !last.isEmpty && (last.all Char.isDigit ||
        (("0x".toList.isPrefixOf last || "0X".toList.isPrefixOf last) &&
          (addressPart? last).isSome))

/-- One to four parts: all but the last are bytes, and the last fills the rest. -/
def isNumericAddress (host : List Char) : Bool :=
  let parts := labels host
  match parts.mapM addressPart? with
  | none => false
  | some ns =>
      ns.length ≤ 4 && ns.dropLast.all (· ≤ 255) &&
        (ns.getLast?.getD 0) < 256 ^ (5 - ns.length)

def isDottedTail (cs : List Char) : Bool :=
  let parts := Text.pieces (· == '.') cs
  parts.length = 4 && parts.all fun p =>
    match Text.digitsValue? p with
    | some n => n ≤ 255 && (p.length = 1 || p.head? != some '0')
    | none => false

def isGroup (cs : List Char) : Bool :=
  0 < cs.length && cs.length ≤ 4 && cs.all fun c => (Text.hexValue? c).isSome

def groupCount? (mayEndDotted : Bool) (cs : List Char) : Option Nat :=
  if cs.isEmpty then some 0
  else
    let groups := Text.pieces (· == ':') cs
    if groups.all isGroup then some groups.length
    else if mayEndDotted && groups.dropLast.all isGroup &&
        isDottedTail (groups.getLast?.getD []) then some (groups.length + 1)
    else none

def splitDoubleColon : List Char → Option (List Char × List Char)
  | ':' :: ':' :: rest => some ([], rest)
  | c :: rest => (splitDoubleColon rest).map fun (a, b) => (c :: a, b)
  | [] => none

/-- Eight groups of 16 bits, a run of zeros left out once. -/
def isGroupedAddress (cs : List Char) : Bool :=
  match splitDoubleColon cs with
  | none => groupCount? true cs == some 8
  | some (before, after) =>
      match groupCount? false before, groupCount? true after with
      | some m, some n => m + n ≤ 7
      | _, _ => false

def bracketed? : List Char → Option (List Char)
  | '[' :: rest => if rest.getLast? = some ']' then some rest.dropLast else none
  | _ => none

/-- A name of any characters, some of which may be percent-encoded. What ends in a number has to be
an address. -/
def isDomain (host : List Char) : Bool :=
  match (Text.percentDecode? host).bind (Domain.labels? isForbiddenInDomain) with
  | none => false
  | some labels =>
      let name := Text.join '.' labels
      !name.isEmpty && (!endsInNumber name || isNumericAddress name)

def isHost (host : List Char) : Bool :=
  if host.head? = some '[' then (bracketed? host).any isGroupedAddress
  else isDomain host

def isOpaqueHost (host : List Char) : Bool :=
  if host.head? = some '[' then (bracketed? host).any isGroupedAddress
  else !host.any isForbidden

end SwapDesk.Host
