import SwapDesk.Endpoint.Host
import SwapDesk.Text.Blank

namespace SwapDesk.Url

/-- Blanks and control characters around a URL, and breaks and tabs inside, do not count. -/
def tidy (text : String) : List Char :=
  (Text.trimWhile (fun c => c.toNat ≤ 32) text.toList).filter fun c =>
    c != '\t' && c != '\n' && c != '\r'

def isSchemeChar (c : Char) : Bool :=
  c.isAlphanum || c == '+' || c == '-' || c == '.'

def scheme? (cs : List Char) : Option (String × List Char) :=
  match cs.dropWhile isSchemeChar with
  | ':' :: rest =>
      let scheme := cs.takeWhile isSchemeChar
      if (scheme.head?.map Char.isAlpha).getD false then
        some (String.ofList (scheme.map Char.toLower), rest)
      else none
  | _ => none

def webSchemes : List String := ["http", "https", "ws", "wss", "ftp"]

def endsAuthority (c : Char) : Bool :=
  c == '/' || c == '?' || c == '#'

def endsWebAuthority (c : Char) : Bool :=
  endsAuthority c || c == '\\'

def isSlash (c : Char) : Bool :=
  c == '/' || c == '\\'

def splitUser (ends : Char → Bool) (cs : List Char) : Option (List Char) × List Char :=
  let authority := cs.takeWhile (!ends ·)
  let host := (authority.reverse.takeWhile (· != '@')).reverse
  let user := authority.take (authority.length - host.length)
  if user.isEmpty then (none, cs) else (some user.dropLast, cs.drop user.length)

def splitHost (ends : Char → Bool) (inBrackets : Bool) : List Char → List Char × List Char
  | [] => ([], [])
  | c :: cs =>
      if ends c || (c == ':' && !inBrackets) then ([], c :: cs)
      else
        let (host, rest) := splitHost ends (c == '[' || (inBrackets && c != ']')) cs
        (c :: host, rest)

def servesFrom : List Char → Bool
  | ':' :: cs =>
      let number := cs.takeWhile Char.isDigit
      let rest := cs.drop number.length
      (number.isEmpty || (Text.digitsValue? number).any (· ≤ 65535)) &&
        rest.head?.all endsWebAuthority
  | _ => true

def isWebAuthority (cs : List Char) : Bool :=
  let (_, rest) := splitUser endsWebAuthority (cs.dropWhile isSlash)
  let (host, rest) := splitHost endsWebAuthority false rest
  Host.isHost host && servesFrom rest

/-- An empty host has neither a user nor a service number. A user of no characters does not count,
unless nothing but a path follows. -/
def isOtherAuthority (cs : List Char) : Bool :=
  let (user, rest) := splitUser endsAuthority cs
  let (host, service) := splitHost endsAuthority false rest
  let hasUser := user.any fun u => u != [':'] && (!u.isEmpty || rest.head?.any endsAuthority)
  if host.isEmpty then !hasUser && service.head? != some ':'
  else Host.isOpaqueHost host && servesFrom service

def isDriveLetter : List Char → Bool
  | [c, mark] => c.isAlpha && (mark == ':' || mark == '|')
  | _ => false

def isFileAuthority (cs : List Char) : Bool :=
  let host := cs.takeWhile (!endsWebAuthority ·)
  host.isEmpty || isDriveLetter host || Host.isHost host

def isValid (text : String) : Bool :=
  match scheme? (tidy text) with
  | none => false
  | some (scheme, rest) =>
      if webSchemes.contains scheme then isWebAuthority rest
      else
        match rest with
        | a :: b :: rest =>
            if scheme = "file" ∧ isSlash a ∧ isSlash b then isFileAuthority rest
            else if scheme ≠ "file" ∧ a = '/' ∧ b = '/' then isOtherAuthority rest
            else true
        | _ => true

end SwapDesk.Url
