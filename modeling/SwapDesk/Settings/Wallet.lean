import SwapDesk.Crypto.Signer
import SwapDesk.Settings.Basic

namespace SwapDesk.Settings

/-- A blank key is no key. -/
def key? (s : Settings) : Option String :=
  s.walletKey.bind Text.nonBlank?

def signer (s : Settings) : Except Failure Address :=
  match s.key? with
  | none => .error (.config .keyMissing)
  | some key =>
      match Signer.ofKeyText? key with
      | none => .error (.config .keyInvalid)
      | some derived =>
          match s.walletAddress with
          | none => .ok derived
          | some expected =>
              if expected = derived then .ok derived
              else .error (.config (.keyMismatch derived expected))

/-- The account that pays: the address if one is set, else the key's. -/
def wallet (s : Settings) : Except Failure Address :=
  match s.walletAddress with
  | some address => .ok address
  | none => s.signer

end SwapDesk.Settings
