import SwapDesk.Text.Decimal
import SwapDesk.Text.Hex

/-!
Machine words: 256-bit amounts, account addresses and transaction hashes. Amounts wrap around at
2^256, as contract arithmetic does.
-/

namespace SwapDesk

abbrev Word := BitVec 256

namespace Word

def decimal (w : Word) : String :=
  Text.decimal w.toNat

def toBytes (w : Word) : Bytes :=
  Bytes.bigEndian 32 w.toNat

def ofBytes (bytes : Bytes) : Word :=
  BitVec.ofNat 256 (Bytes.value bytes)

theorem ofBytes_toBytes (w : Word) : ofBytes (toBytes w) = w := by
  have bound : w.toNat < 256 ^ 32 := w.isLt
  rw [ofBytes, toBytes, Bytes.value_bigEndian, Nat.mod_eq_of_lt bound]
  exact BitVec.eq_of_toNat_eq (by rw [BitVec.toNat_ofNat, Nat.mod_eq_of_lt w.isLt])

@[simp] theorem length_toBytes (w : Word) : w.toBytes.length = 32 :=
  Bytes.length_bigEndian _ _

end Word

abbrev GasPrice := BitVec 128

structure Address where
  value : BitVec 160
deriving DecidableEq, Inhabited

namespace Address

def zero : Address := ⟨0⟩

def ofNat (n : Nat) : Address := ⟨BitVec.ofNat 160 n⟩

def toBytes (a : Address) : Bytes :=
  Bytes.bigEndian 20 a.value.toNat

def text (a : Address) : String :=
  Text.hex a.toBytes

/-- Forty hexadecimal digits of any case after an optional mark; checksums are not looked at. -/
def ofText? (s : String) : Option Address :=
  (Text.readFixedHex? 20 s).map ofNat

def toWord (a : Address) : Word :=
  a.value.setWidth 256

def ofWord (w : Word) : Address :=
  ⟨w.setWidth 160⟩

@[simp] theorem ofWord_toWord (a : Address) : ofWord a.toWord = a := by
  simp [ofWord, toWord]

end Address

structure Hash where
  value : BitVec 256
deriving DecidableEq, Inhabited

namespace Hash

def toBytes (h : Hash) : Bytes :=
  Bytes.bigEndian 32 h.value.toNat

def text (h : Hash) : String :=
  Text.hex h.toBytes

def ofText? (s : String) : Option Hash :=
  (Text.readFixedHex? 32 s).map fun n => ⟨BitVec.ofNat 256 n⟩

end Hash

/-- Addition that stops at the largest 64-bit number. -/
def saturatingAdd (a b : UInt64) : UInt64 :=
  UInt64.ofNat (min (a.toNat + b.toNat) (2 ^ 64 - 1))

theorem toNat_saturatingAdd (a b : UInt64) :
    (saturatingAdd a b).toNat = min (a.toNat + b.toNat) (2 ^ 64 - 1) := by
  simp only [saturatingAdd, UInt64.toNat_ofNat']
  omega

end SwapDesk
