import SwapDesk.Word
import SwapDesk.Crypto.Keccak

namespace SwapDesk.Signer

def fieldPrime : Nat :=
  0xFFFFFFFFFFFFFFFFFFFFFFFFFFFFFFFFFFFFFFFFFFFFFFFFFFFFFFFEFFFFFC2F

def groupOrder : Nat :=
  0xFFFFFFFFFFFFFFFFFFFFFFFFFFFFFFFEBAAEDCE6AF48A03BBFD25E8CD0364141

def generatorX : Nat :=
  0x79BE667EF9DCBBAC55A06295CE870B07029BFCDB2DCE28D959F2815B16F81798

def generatorY : Nat :=
  0x483ADA7726A3C4655DA4FBFC0E1108A8FD17B448A68554199C47D08FFB10D4B8

/-- A point in Jacobian coordinates; `z = 0` is the neutral point. -/
structure Point where
  x : Nat
  y : Nat
  z : Nat

def sub (a b : Nat) : Nat :=
  (a + (fieldPrime - b % fieldPrime)) % fieldPrime

def mul (a b : Nat) : Nat :=
  a * b % fieldPrime

def Point.double (p : Point) : Point :=
  let yy := mul p.y p.y
  let s := mul 4 (mul p.x yy)
  let m := mul 3 (mul p.x p.x)
  let x := sub (mul m m) (2 * s)
  ⟨x, sub (mul m (sub s x)) (mul 8 (mul yy yy)), mul 2 (mul p.y p.z)⟩

def Point.add (p q : Point) : Point :=
  if p.z = 0 then q
  else if q.z = 0 then p
  else
    let pzz := mul p.z p.z
    let qzz := mul q.z q.z
    let u := mul p.x qzz
    let h := sub (mul q.x pzz) u
    let s := mul p.y (mul q.z qzz)
    let r := sub (mul q.y (mul p.z pzz)) s
    if h = 0 then
      if r = 0 then p.double else ⟨1, 1, 0⟩
    else
      let hh := mul h h
      let hhh := mul h hh
      let v := mul u hh
      let x := sub (sub (mul r r) hhh) (2 * v)
      ⟨x, sub (mul r (sub v x)) (mul s hhh), mul h (mul p.z q.z)⟩

def Point.scale (p : Point) (k : Nat) : Nat → Point
  | 0 => ⟨1, 1, 0⟩
  | bits + 1 =>
      let high := (scale p (k / 2) bits).double
      if k % 2 = 1 then high.add p else high

def power (base : Nat) (exponent : Nat) : Nat → Nat
  | 0 => 1
  | bits + 1 =>
      let square := power base (exponent / 2) bits
      let squared := mul square square
      if exponent % 2 = 1 then mul squared base else squared

def inverse (a : Nat) : Nat :=
  power a (fieldPrime - 2) 256

def Point.toBytes (p : Point) : Bytes :=
  let i := inverse p.z
  let ii := mul i i
  Bytes.bigEndian 32 (mul p.x ii) ++ Bytes.bigEndian 32 (mul p.y (mul i ii))

def addressOf (key : Nat) : Address :=
  let point := (Point.mk generatorX generatorY 1).scale key 256
  Address.ofNat (Bytes.value ((Keccak.digest point.toBytes).drop 12))

def ofKeyText? (text : String) : Option Address :=
  match Text.readFixedHex? 32 text with
  | some key => if 0 < key ∧ key < groupOrder then some (addressOf key) else none
  | none => none

end SwapDesk.Signer
