import SwapDesk.Proofs.Text.Trimming
import SwapDesk.Token.Registry

namespace SwapDesk

namespace Text

def smallLetters : List Char :=
  (List.range 26).map fun n => Char.ofNat ('a'.toNat + n)

theorem toUpper_of_not_small {c : Char} (other : c ∉ smallLetters) : c.toUpper = c := by
  apply dif_neg
  intro bounds
  obtain ⟨low, high⟩ : 'a'.toNat ≤ c.toNat ∧ c.toNat ≤ 'a'.toNat + 25 := bounds
  have spelled : Char.ofNat ('a'.toNat + (c.toNat - 'a'.toNat)) = c := by
    rw [Nat.add_sub_cancel' low, Char.ofNat_toNat]
  exact other (List.mem_map.mpr ⟨c.toNat - 'a'.toNat, List.mem_range.mpr (by omega), spelled⟩)

theorem apply_toUpper {α : Type} {f : Char → α}
    (small : smallLetters.map (fun c => f c.toUpper) = smallLetters.map f) (c : Char) :
    f c.toUpper = f c := by
  by_cases member : c ∈ smallLetters
  · exact List.map_inj_left.mp small c member
  · rw [toUpper_of_not_small member]

theorem isBlank_toUpper (c : Char) : isBlank c.toUpper = isBlank c :=
  apply_toUpper (by decide) c

theorem trim_upperAscii (text : String) : trim (upperAscii text) = upperAscii (trim text) := by
  simp only [trim, upperAscii, trimChars, String.toList_ofList, trimWhile_map isBlank_toUpper]

theorem hexValue?_toUpper (c : Char) : hexValue? c.toUpper = hexValue? c :=
  apply_toUpper (by decide) c

theorem bytesOfHex?_map_toUpper (cs : List Char) :
    bytesOfHex? (cs.map Char.toUpper) = bytesOfHex? cs := by
  induction cs using bytesOfHex?.induct with
  | case1 => rfl
  | case2 _ => rfl
  | case3 high low rest ih =>
      simp only [List.map_cons, bytesOfHex?, hexValue?_toUpper, ih]

def isHexMark (c d : Char) : Bool :=
  c == '0' && (d == 'x' || d == 'X')

theorem isHexMark_toUpper (c d : Char) : isHexMark c.toUpper d.toUpper = isHexMark c d := by
  have first : (c.toUpper == '0') = (c == '0') :=
    apply_toUpper (f := fun c => c == '0') (by decide) c
  have second : (d.toUpper == 'x' || d.toUpper == 'X') = (d == 'x' || d == 'X') :=
    apply_toUpper (f := fun d => d == 'x' || d == 'X') (by decide) d
  rw [isHexMark, first, second, isHexMark]

theorem withoutHexMark_cons_cons (c d : Char) (rest : List Char) :
    withoutHexMark (c :: d :: rest) = if isHexMark c d then rest else c :: d :: rest := by
  unfold withoutHexMark isHexMark
  split
  · simp_all
  · simp_all
  · rename_i small large
    rw [if_neg]
    intro mark
    simp only [Bool.and_eq_true, Bool.or_eq_true, beq_iff_eq] at mark
    obtain ⟨rfl, rfl | rfl⟩ := mark
    · exact small rest rfl
    · exact large rest rfl

theorem withoutHexMark_map_toUpper (cs : List Char) :
    withoutHexMark (cs.map Char.toUpper) = (withoutHexMark cs).map Char.toUpper := by
  match cs with
  | [] => rfl
  | [c] => simp [withoutHexMark]
  | c :: d :: rest =>
      simp only [List.map_cons, withoutHexMark_cons_cons, isHexMark_toUpper]
      split
      · rfl
      · rfl

theorem readFixedHex?_upperAscii (width : Nat) (text : String) :
    readFixedHex? width (upperAscii text) = readFixedHex? width text := by
  simp only [readFixedHex?, readHex?, upperAscii, String.toList_ofList,
    withoutHexMark_map_toUpper, bytesOfHex?_map_toUpper]

end Text

theorem Address.ofText?_upperAscii (text : String) :
    ofText? (Text.upperAscii text) = ofText? text := by
  rw [ofText?, Text.readFixedHex?_upperAscii, ofText?]

theorem symbolKey_trim (text : String) : symbolKey (Text.trim text) = Text.trim (symbolKey text) :=
  (Text.trim_upperAscii text).symm

theorem Address.ofText?_of_symbolKey {text other : String}
    (same : symbolKey text = symbolKey other) : ofText? text = ofText? other := by
  rw [← ofText?_upperAscii text, ← ofText?_upperAscii other]
  exact congrArg ofText? same

end SwapDesk
