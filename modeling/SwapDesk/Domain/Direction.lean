import SwapDesk.Domain.Joiners

namespace SwapDesk.Domain

inductive Direction where
  | left
  | right
  | arabicNumber
  | europeanNumber
  | mark
  | neutral
deriving DecidableEq

def leftwardTable : Unicode.Table := .ofLines
    ["5BE-5F4 608 60B 60D 61B-64A 66D-6D5 6E5-6E6 6EE-6EF 6FA-7F5 7FA-8C9 FBB2-FBC2 FE73",
     "10800-1091B 10920-10B35 10B40-10D23 10D4A-10D8F 10E80-10FF6 1E800-1ED3D"]

def arabicNumberTable : Unicode.Table := .ofLines
    ["660-669 66B-66C 10D30-10D49 10E60-10E7E"]

def europeanNumberTable : Unicode.Table := .ofLines
    ["30-39 6F0-6F9 102E1-102FB"]

def neutralTable : Unicode.Table := .ofLines
    ["0-8 E-1B 21-2F 3A-60 7B-D7 F7 2B9-2BA 2C2-2CF 2D2-2ED 2EF-2FF 375 3F6 58A-58F 606-607",
     "609-60A 60C 60E-60F 66A 6DE 6E9 7F6-7F9 9F2-9F3 9FB AF1 BF3-BFA C78-C7E E3F F3A-F3D",
     "1390-1399 1400 169B-169C 17DB 17F0-180A 1940-1945 19DE-19FF 200C-214D 218A-2335 237B-2394",
     "2396-26AB 26AD-27FF 2900-2BFF 2CE5-2CEA 2CF9-2CFF 2E00-3004 3008-3020 3030 3037 303D-303F",
     "30A0 30FB 31C0-31E3 4DC0-4DFF A490-A4C6 A60D-A60F A673-A67F A700-A721 A788 A828-A82B",
     "A838-A839 A874-A877 AB6A-AB6B FD3E-FD4F FDCF-FE46 10101 10140-1018C 10190-101A0 1091F",
     "10B39-10B3F 11052-11065 11660-1166C 11FD5-11FF1 16FE2 1CC00-1CEF0 1D1E9-1D245 1D300-1D356",
     "1E2FF 1EEF0-1F12F 1F16D-1F16F 1F1AD 1F260-1FBFA"]

def directedMarks : List Char :=
  ['\u0CBF', '\u0CC6', '𑨇', '𑨈', '𑰿']

def transparentLetter : Char := '𞥋'

def Direction.ofChar (c : Char) : Direction :=
  if c = transparentLetter then .left
  else if directedMarks.contains c then .right
  else if transparentTable.holds c then .mark
  else if leftwardTable.holds c then .left
  else if arabicNumberTable.holds c then .arabicNumber
  else if europeanNumberTable.holds c then .europeanNumber
  else if neutralTable.holds c then .neutral
  else .right

def isLeftward (c : Char) : Bool :=
  let d := Direction.ofChar c
  d == .left || d == .arabicNumber

def lastDirection? (ds : List Direction) : Option Direction :=
  (ds.reverse.dropWhile (· == .mark)).head?

/-- A label that runs to the left has numbers of one kind only. -/
def runsLeft (ds : List Direction) : Bool :=
  !ds.contains .right &&
    (lastDirection? ds).any (fun d => d != .neutral) &&
    !(ds.contains .arabicNumber && ds.contains .europeanNumber)

def runsRight (ds : List Direction) : Bool :=
  !ds.contains .left && !ds.contains .arabicNumber &&
    (lastDirection? ds).any fun d => d == .right || d == .europeanNumber

def hasDirection (label : List Char) : Bool :=
  let ds := label.map Direction.ofChar
  match ds with
  | [] => true
  | .left :: _ => runsLeft ds
  | .right :: _ => runsRight ds
  | _ => false

end SwapDesk.Domain
