import SwapDesk.Text.Hex
import SwapDesk.Text.Split

namespace SwapDesk.Text

def utf8 (cs : List Char) : Bytes :=
  (String.ofList cs).toUTF8.toList

def ofUtf8? (bytes : Bytes) : Option (List Char) :=
  (String.fromUTF8? (ByteArray.mk bytes.toArray)).map String.toList

def hexByte? (high low : UInt8) : Option UInt8 := do
  let h ← hexValue? (Char.ofNat high.toNat)
  let l ← hexValue? (Char.ofNat low.toNat)
  return UInt8.ofNat (h * 16 + l)

def percentSign : UInt8 := 0x25

def percentDecoded : Bytes → Bytes
  | [] => []
  | [a] => [a]
  | [a, b] => [a, b]
  | a :: b :: c :: rest =>
      match a == percentSign, hexByte? b c with
      | true, some byte => byte :: percentDecoded rest
      | _, _ => a :: percentDecoded (b :: c :: rest)

def percentDecode? (cs : List Char) : Option (List Char) :=
  ofUtf8? (percentDecoded (utf8 cs))

def cutAt (mark : Char) (cs : List Char) : List Char × List Char :=
  (cs.takeWhile (· != mark), (cs.dropWhile (· != mark)).drop 1)

/-- A part of a form, in which a plus sign stands for a blank. -/
def formDecode? (cs : List Char) : Option String :=
  (percentDecode? (cs.map fun c => if c = '+' then ' ' else c)).map String.ofList

def formFields? (cs : List Char) : Option (List (String × String)) :=
  (runs (· == '&') cs).mapM fun field => do
    let (name, value) := cutAt '=' field
    return (← formDecode? name, ← formDecode? value)

end SwapDesk.Text
