import SwapDesk.Word

namespace SwapDesk

namespace Text

theorem digitValue?_digitChar {n : Nat} (small : n < 10) :
    digitValue? (digitChar n) = some n := by
  have all : ∀ n < 10, digitValue? (digitChar n) = some n := by decide
  exact all n small

theorem digitsValueFrom?_decimalDigits (n : Nat) :
    digitsValueFrom? 0 (decimalDigits n) = some n := by
  induction n using decimalDigits.induct with
  | case1 n small =>
      rw [decimalDigits, if_pos small]
      simp [digitsValueFrom?, digitValue?_digitChar small]
  | case2 n large ih =>
      have digit := digitValue?_digitChar (show n % 10 < 10 by omega)
      rw [decimalDigits, if_neg large, digitsValueFrom?_append, ih]
      simp only [Option.bind_some, digitsValueFrom?, digit]
      congr 1
      omega

theorem decimalDigits_ne_nil (n : Nat) : decimalDigits n ≠ [] := by
  rw [decimalDigits]
  split <;> simp

theorem exists_of_mem_decimalDigits {n : Nat} {c : Char} (member : c ∈ decimalDigits n) :
    ∃ d < 10, c = digitChar d := by
  induction n using decimalDigits.induct with
  | case1 n small =>
      rw [decimalDigits, if_pos small, List.mem_singleton] at member
      exact ⟨n, small, member⟩
  | case2 n large ih =>
      rw [decimalDigits, if_neg large] at member
      rcases List.mem_append.mp member with front | last
      · exact ih front
      · exact ⟨n % 10, by omega, List.mem_singleton.mp last⟩

theorem forall_mem_decimalDigits {p : Char → Prop} (all : ∀ d < 10, p (digitChar d)) (n : Nat) :
    ∀ c ∈ decimalDigits n, p c := by
  intro c member
  obtain ⟨d, small, rfl⟩ := exists_of_mem_decimalDigits member
  exact all d small

theorem digitsValue?_decimal (n : Nat) : digitsValue? (decimal n).toList = some n := by
  rw [decimal, String.toList_ofList, digitsValue?, if_neg (by simp [decimalDigits_ne_nil]),
    digitsValueFrom?_decimalDigits]

theorem hexValue?_hexDigit {n : Nat} (small : n < 16) : hexValue? (hexDigit n) = some n := by
  have all : ∀ n < 16, hexValue? (hexDigit n) = some n := by decide
  exact all n small

theorem bytesOfHex?_hexOfBytes (bytes : Bytes) : bytesOfHex? (hexOfBytes bytes) = some bytes := by
  induction bytes with
  | nil => rfl
  | cons byte bytes ih =>
      have bound := byte.toNat_lt
      have high := hexValue?_hexDigit (show byte.toNat / 16 < 16 by omega)
      have low := hexValue?_hexDigit (show byte.toNat % 16 < 16 by omega)
      have whole : byte.toNat / 16 * 16 + byte.toNat % 16 = byte.toNat := by omega
      simp only [hexOfBytes, bytesOfHex?, high, low, ih, Option.bind_eq_bind, Option.bind_some,
        whole, UInt8.ofNat_toNat]
      rfl

theorem readFixedHex?_hex (bytes : Bytes) :
    readFixedHex? bytes.length (hex bytes) = some (Bytes.value bytes) := by
  have read : readHex? (hex bytes) = some bytes := by
    rw [readHex?, hex, String.toList_ofList]
    exact bytesOfHex?_hexOfBytes bytes
  rw [readFixedHex?, read]
  simp [Option.filter]

end Text

theorem Address.ofText?_text (a : Address) : ofText? a.text = some a := by
  have bound : a.value.toNat < 256 ^ 20 := a.value.isLt
  have read := Text.readFixedHex?_hex a.toBytes
  rw [Address.toBytes, Bytes.length_bigEndian, Bytes.value_bigEndian,
    Nat.mod_eq_of_lt bound] at read
  rw [ofText?, text, Address.toBytes, read]
  simp [ofNat]

namespace Word

def ofDecimal? (s : String) : Option Word :=
  ((Text.digitsValue? s.toList).filter (· < 2 ^ 256)).map (BitVec.ofNat 256)

theorem ofDecimal?_decimal (w : Word) : ofDecimal? w.decimal = some w := by
  rw [ofDecimal?, decimal, Text.digitsValue?_decimal]
  simp [Option.filter, w.isLt]

end Word

end SwapDesk
