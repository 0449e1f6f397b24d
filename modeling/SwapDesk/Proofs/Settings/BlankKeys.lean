import SwapDesk.CommandLine.Run
import SwapDesk.Proofs.Checked
import SwapDesk.Proofs.Text.Trimming

namespace SwapDesk

namespace Settings

variable {s : Settings}

def BlankKey (s : Settings) : Prop :=
  ∃ text, s.walletKey = some text ∧ ∀ c ∈ text.toList, Text.isBlank c = true

def withoutKey (s : Settings) : Settings :=
  { s with walletKey := none }

theorem endpointFor_withoutKey (s : Settings) (env : Environment) (chain : UInt64) :
    s.withoutKey.endpointFor env chain = s.endpointFor env chain := by
  unfold withoutKey endpointFor
  rfl

theorem BlankKey.key?_eq (blank : s.BlankKey) : s.key? = none := by
  obtain ⟨text, set, blanks⟩ := blank
  rwa [key?, set, Option.bind_some, Text.nonBlank?_eq_none_iff]

theorem signer_of_key? (none : s.key? = none) : s.signer = .error (.config .keyMissing) := by
  rw [signer, none]

theorem BlankKey.signer_eq (blank : s.BlankKey) : s.signer = s.withoutKey.signer :=
  (signer_of_key? blank.key?_eq).trans (signer_of_key? rfl).symm

theorem BlankKey.wallet_eq (blank : s.BlankKey) : s.wallet = s.withoutKey.wallet := by
  rw [wallet, blank.signer_eq]
  rfl

theorem BlankKey.checked_eq (blank : s.BlankKey) :
    (checked s).map withoutKey = checked s.withoutKey := by
  have same : s.key? = s.withoutKey.key? := blank.key?_eq
  unfold checked
  rw [same]
  change Except.map withoutKey (if s.chains.isEmpty then _ else _) =
    if s.chains.isEmpty then _ else if s.production && _ then _ else _
  split
  · rfl
  · split <;> rfl

variable {chain : UInt64}

theorem overlay_ne_keyMissing (entries : TextMap String) (routers : Routers) :
    overlay chain routers entries ≠ .error (.config .keyMissing) := by
  induction entries generalizing routers with
  | nil => exact nofun
  | cons entry entries ih =>
      unfold overlay
      split
      · exact nofun
      · split
        · exact nofun
        · exact ih _

theorem routersFor_ne_keyMissing : s.routersFor chain ≠ .error (.config .keyMissing) :=
  overlay_ne_keyMissing _ _

theorem batchFor_ne_keyMissing : s.batchFor chain ≠ .error (.config .keyMissing) := by
  unfold batchFor
  split
  · exact nofun
  · split <;> exact nofun

theorem poolsFile_ne_keyMissing {env : Environment} {tree : FileTree} :
    s.poolsFile env tree ≠ .error (.config .keyMissing) := by
  unfold poolsFile DataPath.required
  dsimp only
  split <;> exact nofun

theorem endpointFor_ne_keyMissing {env : Environment} :
    s.endpointFor env chain ≠ .error (.config .keyMissing) := by
  unfold endpointFor
  split
  · exact nofun
  · split <;> exact nofun

end Settings

theorem RpcClient.verify_ne_keyMissing (c : RpcClient) (expected : UInt64) :
    c.verify expected ≠ .error (.config .keyMissing) := by
  unfold verify
  split
  · exact nofun
  · split <;> exact nofun

namespace ChainSetup

variable {s : Settings} {around : Surroundings} {chain : UInt64} {tokens : TokenRegistry}
  {token : CancelToken} {url : String} {e : Failure}

def EndsAlike (setup setup' : ChainSetup) : Prop :=
  ∀ e, setup.result = .error e ↔ setup'.result = .error e

theorem run_of_client_error (failed : client s around chain = .error e) :
    run s around chain tokens token = ⟨.error e, []⟩ := by
  rw [run, failed]

theorem run_of_endpointFor_error (absent : s.endpointFor around.env chain = .error e) :
    run s around chain tokens token = ⟨.error e, []⟩ := by
  apply run_of_client_error
  rw [client, absent]
  rfl

theorem run_of_blankKey (blank : s.BlankKey) (known : s.endpointFor around.env chain = .ok url) :
    run s around chain tokens token = ⟨.error (.config .keyMissing), []⟩ := by
  obtain ⟨text, set, _⟩ := id blank
  apply run_of_client_error
  rw [client, known, set, Settings.signer_of_key? blank.key?_eq]
  rfl

theorem context_ne_keyMissing :
    context s around chain tokens token ≠ .error (.config .keyMissing) := by
  intro failed
  rcases Checked.bind_eq_error_iff.mp failed with failed | ⟨_, _, failed⟩
  · exact Settings.routersFor_ne_keyMissing failed
  rcases Checked.bind_eq_error_iff.mp failed with failed | ⟨_, _, failed⟩
  · exact Settings.poolsFile_ne_keyMissing failed
  rcases Checked.bind_eq_error_iff.mp failed with failed | ⟨_, _, failed⟩
  · exact Settings.batchFor_ne_keyMissing failed
  · exact nomatch failed

theorem client_ne_keyMissing (unset : s.walletKey = none) :
    client s around chain ≠ .error (.config .keyMissing) := by
  intro failed
  rcases Checked.bind_eq_error_iff.mp failed with failed | ⟨_, _, failed⟩
  · exact Settings.endpointFor_ne_keyMissing failed
  rw [unset] at failed
  rcases Checked.bind_eq_error_iff.mp failed with failed | ⟨_, _, failed⟩
  · exact nomatch failed
  · split at failed <;> exact nomatch failed

theorem client_of_unset (unset : s.walletKey = none)
    (known : s.endpointFor around.env chain = .ok url) (valid : Url.isValid url = true) :
    client s around chain = .ok ⟨around.endpoint url, chain, none⟩ := by
  rw [client, known, unset]
  exact if_pos valid

theorem exists_run_eq_ok {c : RpcClient} {routers : Routers} {pools : String} {batch : Address}
    (reached : client s around chain = .ok c) (verified : c.verify chain = .ok ())
    (known : s.routersFor chain = .ok routers)
    (found : s.poolsFile around.env around.tree = .ok pools)
    (read : s.batchFor chain = .ok batch) :
    ∃ made, (run s around chain tokens token).result = .ok made := by
  rw [run, reached]
  simp only [verified, context, known, found, read]
  exact ⟨_, rfl⟩

theorem run_ne_keyMissing (unset : s.walletKey = none) :
    (run s around chain tokens token).result ≠ .error (.config .keyMissing) := by
  unfold run
  split
  · rename_i e reached
    rintro ⟨⟩
    exact client_ne_keyMissing unset reached
  · intro failed
    rcases Checked.bind_eq_error_iff.mp failed with failed | ⟨_, _, failed⟩
    · exact RpcClient.verify_ne_keyMissing _ _ failed
    rcases Checked.bind_eq_error_iff.mp failed with failed | ⟨_, _, failed⟩
    · exact context_ne_keyMissing failed
    · exact nomatch failed

theorem endsAlike_iff (blank : s.BlankKey) :
    EndsAlike (run s around chain tokens token) (run s.withoutKey around chain tokens token) ↔
      ∃ e, s.endpointFor around.env chain = .error e := by
  constructor
  · intro alike
    cases known : s.endpointFor around.env chain with
    | error e => exact ⟨e, rfl⟩
    | ok url =>
        have failed := (alike (.config .keyMissing)).mp (by rw [run_of_blankKey blank known])
        exact absurd failed (run_ne_keyMissing rfl)
  · rintro ⟨e, absent⟩ _
    have absent' := (s.endpointFor_withoutKey around.env chain).trans absent
    rw [run_of_endpointFor_error absent, run_of_endpointFor_error absent']

theorem run_eq_error_of_blankKey (blank : s.BlankKey) :
    ∃ e, run s around chain tokens token = ⟨.error e, []⟩ := by
  cases known : s.endpointFor around.env chain with
  | error e => exact ⟨e, run_of_endpointFor_error known⟩
  | ok url => exact ⟨_, run_of_blankKey blank known⟩

end ChainSetup

open CommandLine in
theorem CommandLine.trading_of_blankKey {s : Settings} (blank : s.BlankKey) (d : Desk)
    (chain : UInt64) (store : AuditStore) (act : Session → AuditStore → Session.Step) :
    ∃ e, trading d s chain store act = { ending := .failed e, store } := by
  unfold trading
  dsimp only
  split
  · exact ⟨_, rfl⟩
  · rename_i tokens _
    have setup : ∃ e, ChainSetup.run s d.around chain tokens (ChainRegistry.childToken {}).1 =
        ⟨.error e, []⟩ := ChainSetup.run_eq_error_of_blankKey blank
    obtain ⟨e, setup⟩ := setup
    exact ⟨e, by rw [setup]⟩

namespace Settings

open ChainSetup CommandLine

/-- The settings pass for settings without a key until a chain is set up; then, if the chain has an
endpoint, the key is found wanting. -/
structure KeyFoundWanting (s : Settings) : Prop where
  signer : s.signer = s.withoutKey.signer
  wallet : s.wallet = s.withoutKey.wallet
  checked : (Settings.checked s).map withoutKey = Settings.checked s.withoutKey
  known : ∀ around chain tokens token url, s.endpointFor around.env chain = .ok url →
    run s around chain tokens token = ⟨.error (.config .keyMissing), []⟩ ∧
      (run s.withoutKey around chain tokens token).result ≠ .error (.config .keyMissing)
  endsAlike_iff : ∀ around chain tokens token,
    EndsAlike (run s around chain tokens token) (run s.withoutKey around chain tokens token) ↔
      ∃ e, s.endpointFor around.env chain = .error e
  quote : ∀ d chain store t,
    ∃ e, perform d s chain store (.quote t) = { ending := .failed e, store }

theorem keyFoundWanting_of_blank (s : Settings) (blank : s.BlankKey) : s.KeyFoundWanting where
  signer := blank.signer_eq
  wallet := blank.wallet_eq
  checked := blank.checked_eq
  known _ _ _ _ _ known := ⟨run_of_blankKey blank known, run_ne_keyMissing rfl⟩
  endsAlike_iff _ _ _ _ := ChainSetup.endsAlike_iff blank
  quote d chain store t :=
    trading_of_blankKey blank d chain store fun session => session.quote t

end Settings

namespace Sample

open Settings ChainSetup

def blankKey : Settings where
  walletKey := some "   "
  endpoints := some [("56", "http://[::1]:8545")]

def surroundings : Surroundings where
  env := []
  tree := { workingDirectory := "/desk", files := [("/desk/data/pools.json", "[]")] }
  endpoint _ request _ := match request with
    | .chainId => .result (.string "0x38")
    | _ => .failure

theorem blankKey_blank : blankKey.BlankKey :=
  ⟨"   ", rfl, List.all_eq_true.mp rfl⟩

theorem endpointFor_blankKey :
    blankKey.endpointFor surroundings.env 56 = .ok "http://[::1]:8545" := by
  have key : Text.decimal 56 = "56" := by
    simp [Text.decimal, Text.decimalDigits, Text.digitChar]
  simp [Settings.endpointFor, TextMap.forChain?, TextMap.get?, blankKey, key]

theorem exists_run_withoutKey :
    ∃ made, (run blankKey.withoutKey surroundings 56 {} ⟨0, true⟩).result = .ok made := by
  have known := (endpointFor_withoutKey blankKey surroundings.env 56).trans endpointFor_blankKey
  have reached := client_of_unset rfl known (by decide +kernel)
  have verified : RpcClient.verify
      ⟨surroundings.endpoint "http://[::1]:8545", 56, none⟩ 56 = .ok () := by decide +kernel
  have pools : blankKey.withoutKey.poolsFile surroundings.env surroundings.tree =
      .ok "/desk/data/pools.json" := by decide +kernel
  exact exists_run_eq_ok reached verified rfl pools rfl

end Sample

theorem Settings.keyFoundWanting_of_blank_sample :
    Sample.blankKey.BlankKey ∧ Sample.blankKey.KeyFoundWanting :=
  ⟨Sample.blankKey_blank, keyFoundWanting_of_blank Sample.blankKey Sample.blankKey_blank⟩

open Sample in
theorem ChainSetup.not_endsAlike_of_blank :
    blankKey.BlankKey ∧
      (∃ made, (run blankKey.withoutKey surroundings 56 {} ⟨0, true⟩).result = .ok made) ∧
      (run blankKey surroundings 56 {} ⟨0, true⟩).result = .error (.config .keyMissing) ∧
      ¬ EndsAlike (run blankKey surroundings 56 {} ⟨0, true⟩)
        (run blankKey.withoutKey surroundings 56 {} ⟨0, true⟩) := by
  have wanting : run blankKey surroundings 56 {} ⟨0, true⟩ = ⟨.error (.config .keyMissing), []⟩ :=
    run_of_blankKey blankKey_blank endpointFor_blankKey
  refine ⟨blankKey_blank, exists_run_withoutKey, congrArg ChainSetup.result wanting, ?_⟩
  rw [endsAlike_iff blankKey_blank, endpointFor_blankKey]
  exact nofun

end SwapDesk
