import SwapDesk.Domain.Direction
import SwapDesk.Domain.Mapping
import SwapDesk.Domain.Punycode

namespace SwapDesk.Domain

def spacingMarkTable : Unicode.Table := .ofLines
    ["903 93B 93E-94F 982-983 9BE-9CC 9D7 A03 A3E-A40 A83 ABE-ACC B02-B03 B3E-B57 BBE-BCC BD7",
     "C01-C03 C41-C44 C82-C83 CBE-CD6 CF3-D03 D3E-D4C D57 D82-D83 DCF-DDF DF2-DF3 F3E-F3F F7F",
     "102B-103C 1056-1057 1062-1064 1067-106D 1083-108C 108F 109A-109C 1715 1734 17B6-17C8",
     "1923-1938 1A19-1A1A 1A55-1A72 1B04 1B35-1B44 1B82 1BA1-1BAA 1BE7-1BF3 1C24-1C35 1CE1 1CF7",
     "302E-302F A823-A827 A880-A881 A8B4-A8C3 A952-A953 A983 A9B4-A9C0 AA2F-AA34 AA4D AA7B-AA7D",
     "AAEB-AAEF AAF5 ABE3-ABEA ABEC 11000-11002 11082 110B0-110B8 1112C 11145-11146 11182",
     "111B3-111C0 111CE 1122C-11235 112E0-112E2 11302-11303 1133E-1134D 11357 11362-11363",
     "113B8-113CF 11435-11445 114B0-114C1 115AF-115BE 11630-1163E 116AC-116B6 1171E-11726",
     "1182C-11838 11930-1193D 11940 11942 119D1-119DF 119E4 11A39 11A57-11A58 11A97 11B61-11B67",
     "11C2F-11C3E 11CA9-11CB4 11D8A-11D96 11EF5-11EF6 11F03 11F34-11F41 1612A-1612C 16F51-16F87",
     "16FF0-16FF1 1D165-1D166 1D16D-1D172"]

def isMark (c : Char) : Bool :=
  (transparentTable.holds c && c != transparentLetter) || spacingMarkTable.holds c

def isAscii (cs : List Char) : Bool :=
  cs.all fun c => c.toNat < 128

def spelledMark : List Char := "xn--".toList

/-- A label as it is meant. What is spelled in ASCII has to need that. -/
def meantLabel? (label : List Char) : Option (List Char) :=
  if spelledMark.isPrefixOf label then
    (Punycode.decode? (label.drop spelledMark.length)).filter fun meant =>
      isAscii label && !isAscii meant && isSettled meant
  else some label

/-- No longer label can be spelled in ASCII. -/
def longestLabel : Nat := 1000

def isLabel (label : List Char) : Bool :=
  isAscii label ||
    (label.length ≤ longestLabel && !(label.head?.any isMark) && joinersStand [] label)

def labels? (isForbidden : Char → Bool) (name : List Char) : Option (List (List Char)) := do
  let mapped ← mapped? name
  let labels ← (Text.pieces (· == '.') mapped).mapM meantLabel?
  let directed := labels.any (·.any isLeftward)
  let stands := !mapped.any isForbidden && labels.all isLabel
  if stands && (!directed || labels.all hasDirection) then some labels else none

end SwapDesk.Domain
