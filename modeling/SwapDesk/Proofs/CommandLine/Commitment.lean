import SwapDesk.Proofs.Chain.Lifetimes
import SwapDesk.Proofs.CommandLine.Sessions

namespace SwapDesk

/-! ## Stores -/

namespace StoreShelf

variable {shelf : StoreShelf} {place place' : List (List Char)} {store : AuditStore}

theorem get?_put (shelf : StoreShelf) (place place' : List (List Char)) (store : AuditStore) :
    (shelf.put place store).get? place' =
      if place = place' then some store else shelf.get? place' := by
  by_cases same : place = place'
  · simp [put, get?, same]
  · rw [put, get?, get?, List.find?_cons_of_neg (by simpa using same), List.find?_filter,
      if_neg same]
    congr 2
    funext entry
    by_cases here : entry.1 = place'
    · simp [here, Ne.symm same]
    · simp [here]

def rowsAt (shelf : StoreShelf) (place : List (List Char)) : List AuditRow :=
  ((shelf.get? place).getD {}).rows

theorem rowsAt_put (shelf : StoreShelf) (place place' : List (List Char)) (store : AuditStore) :
    (shelf.put place store).rowsAt place' =
      if place = place' then store.rows else shelf.rowsAt place' := by
  rw [rowsAt, get?_put]
  split
  · rfl
  · rfl

theorem rows_newStore? {tree : FileTree} {access : StoreAccess}
    (made : newStore? tree place access = some store) : store.rows = [] := by
  unfold newStore? at made
  split at made
  · exact nomatch made
  · split at made
    · cases made
      rfl
    · exact nomatch made
  · split at made
    · cases made
      rfl
    · exact nomatch made

theorem rowsAt_putBack {tree : FileTree} {location : StorePlace}
    {putBack : AuditStore → StoreShelf}
    (opened : shelf.open? tree location = some (store, putBack)) (left : AuditStore)
    (place : List (List Char)) :
    (putBack left).rowsAt place = shelf.rowsAt place ∨
      shelf.rowsAt place = store.rows ∧ (putBack left).rowsAt place = left.rows := by
  unfold open? at opened
  split at opened
  · split at opened
    · exact nomatch opened
    · cases opened
      exact .inl rfl
  · rename_i path
    obtain ⟨here, _, opened⟩ := Option.bind_eq_some_iff.mp opened
    obtain ⟨found, taken, opened⟩ := Option.bind_eq_some_iff.mp opened
    cases opened
    rw [rowsAt_put]
    split
    · rename_i same
      subst same
      refine .inr ⟨?_, rfl⟩
      rw [rowsAt]
      cases known : shelf.get? here with
      | some kept =>
          rw [known] at taken
          cases taken
          rfl
      | none =>
          rw [known] at taken
          exact (rows_newStore? taken).symm
    · exact .inl rfl

def Untouched (shelf shelf' : StoreShelf) : Prop :=
  ∀ place, shelf'.rowsAt place = shelf.rowsAt place

end StoreShelf

/-! ## Wallets -/

theorem Settings.wallet_eq_of_signer {s : Settings} {signer payer : Address}
    (signed : s.signer = .ok signer) (paid : s.wallet = .ok payer) : payer = signer := by
  unfold wallet at paid
  cases set : s.walletAddress with
  | none =>
      rw [set] at paid
      exact Except.ok.inj (paid.symm.trans signed)
  | some expected =>
      rw [set] at paid
      cases paid
      unfold Settings.signer at signed
      split at signed
      · exact nomatch signed
      split at signed
      · exact nomatch signed
      rw [set] at signed
      dsimp only at signed
      split at signed
      · rename_i same
        cases signed
        exact same
      · exact nomatch signed

/-! ## Contexts -/

namespace ChainSetup

variable {s : Settings} {around : Surroundings} {chain : UInt64} {tokens : TokenRegistry}
  {token : CancelToken}

theorem requests_run : ∀ request ∈ (run s around chain tokens token).requests,
    request = .chainId := by
  unfold run
  split
  · exact nofun
  · exact List.forall_mem_singleton.mpr rfl

theorem run_eq_ok {made : ChainContext} {c : RpcClient}
    (built : (run s around chain tokens token).result = .ok (made, c)) :
    client s around chain = .ok c ∧ context s around chain tokens token = .ok made ∧
      (run s around chain tokens token).requests = [.chainId] := by
  unfold run at built ⊢
  cases reached : client s around chain with
  | error e => simp only [reached, reduceCtorEq] at built
  | ok reachable =>
      simp only [reached] at built
      obtain ⟨_, _, built⟩ := Checked.bind_eq_ok_iff.mp built
      obtain ⟨_, contextual, built⟩ := Checked.bind_eq_ok_iff.mp built
      cases built
      exact ⟨rfl, contextual, rfl⟩

theorem chainId_of_context {made : ChainContext}
    (contextual : context s around chain tokens token = .ok made) : made.chainId = chain := by
  obtain ⟨_, _, contextual⟩ := Checked.bind_eq_ok_iff.mp contextual
  obtain ⟨_, _, contextual⟩ := Checked.bind_eq_ok_iff.mp contextual
  obtain ⟨_, _, contextual⟩ := Checked.bind_eq_ok_iff.mp contextual
  cases contextual
  rfl

theorem wallet_of_client {c : RpcClient} {payer : Address} (keyed : s.walletKey.isSome)
    (paid : s.wallet = .ok payer) (reached : client s around chain = .ok c) :
    c.wallet = some payer := by
  obtain ⟨key, hasKey⟩ := Option.isSome_iff_exists.mp keyed
  obtain ⟨url, _, reached⟩ := Checked.bind_eq_ok_iff.mp reached
  simp only [hasKey] at reached
  obtain ⟨wallet, signs, reached⟩ := Checked.bind_eq_ok_iff.mp reached
  obtain ⟨signer, signed, rfl⟩ := Checked.map_eq_ok_iff.mp signs
  split at reached
  · cases reached
    rw [Settings.wallet_eq_of_signer signed paid]
  · exact nomatch reached

end ChainSetup

namespace CommandLine

/-! ## Flags -/

def Given.On (g : Given) (tokens : List String) : Prop :=
  ∀ flag ∈ g.flags, flag ∈ tokens

theorem Given.on_empty (tokens : List String) : Given.On {} tokens :=
  fun _ member => nomatch member

namespace OptionRules

variable {r : OptionRules} {g g' : Given} {all tokens rest : List String} {name value : String}

theorem on_withValue (on : g.On all) (given : r.withValue g name value = .ok g') : g'.On all := by
  unfold withValue at given
  split at given
  · split at given
    · cases given
      exact on
    · exact nomatch given
  · exact nomatch given

theorem on_withFlag (on : g.On all) (member : name ∈ all)
    (given : r.withFlag g name = .ok g') : g'.On all := by
  unfold withFlag at given
  split at given
  · exact nomatch given
  · split at given
    · cases given
      intro flag inside
      rcases List.mem_append.mp inside with before | last
      · exact on flag before
      · exact List.mem_singleton.mp last ▸ member
    · exact nomatch given

theorem splitLong_eq_none {token : String} (plain : splitLong token = (name, none)) :
    name = token := by
  unfold splitLong at plain
  dsimp only at plain
  split at plain
  · cases plain
    rfl
  · exact nomatch plain

theorem on_take (on : g.On all) (within : tokens ⊆ all)
    (taken : r.take g tokens = .ok (g', rest)) : g'.On all ∧ rest ⊆ all := by
  fun_induction take r g tokens with
  | case1 | case2 =>
      cases taken
      exact ⟨on, within⟩
  | case3 | case5 | case7 => exact nomatch taken
  | case4 _ _ _ _ _ _ _ _ ih =>
      obtain ⟨g, given, taken⟩ := Checked.bind_eq_ok_iff.mp taken
      exact ih g (on_withValue on given) (List.subset_of_cons_subset within) taken
  | case6 _ _ _ _ _ _ _ _ _ _ ih =>
      obtain ⟨g, given, taken⟩ := Checked.bind_eq_ok_iff.mp taken
      have within := List.subset_of_cons_subset (List.subset_of_cons_subset within)
      exact ih g (on_withValue on given) within taken
  | case8 _ _ _ _ _ _ plain _ ih =>
      obtain ⟨g, given, taken⟩ := Checked.bind_eq_ok_iff.mp taken
      have member := within List.mem_cons_self
      rw [← splitLong_eq_none plain] at member
      exact ih g (on_withFlag on member given) (List.subset_of_cons_subset within) taken

theorem on_takeAll (taken : r.takeAll tokens = .ok g) : g.On tokens := by
  unfold takeAll at taken
  split at taken
  · exact nomatch taken
  rename_i found
  split at taken
  · cases taken
    exact (on_take (Given.on_empty tokens) (List.Subset.refl tokens) found).1
  · exact nomatch taken

end OptionRules

theorem prod_mem_of_read {tokens : List String} {inv : Invocation} {t : TradeArguments}
    {noWait : Bool} {slippageBps : Option UInt64} (given : read tokens = .ok inv)
    (asked : inv.command = .swap t true noWait slippageBps) : "--prod" ∈ tokens := by
  obtain ⟨⟨g, rest⟩, taken, given⟩ := Checked.bind_eq_ok_iff.mp given
  obtain ⟨parsed, commanded, given⟩ := Checked.bind_eq_ok_iff.mp given
  cases given
  have within := (OptionRules.on_take (Given.on_empty tokens) (List.Subset.refl tokens) taken).2
  change parsed = _ at asked
  subst asked
  unfold command at commanded
  split at commanded
  · obtain ⟨_, _, commanded⟩ := Checked.bind_eq_ok_iff.mp commanded
    obtain ⟨_, _, commanded⟩ := Checked.bind_eq_ok_iff.mp commanded
    exact nomatch commanded
  · obtain ⟨g, taken, commanded⟩ := Checked.bind_eq_ok_iff.mp commanded
    obtain ⟨_, _, commanded⟩ := Checked.bind_eq_ok_iff.mp commanded
    have held : g.holds "--prod" = true := by
      injection commanded with same
      injection same
    exact within (List.mem_cons_of_mem _
      (OptionRules.on_takeAll taken "--prod" (List.contains_iff_mem.mp held)))
  · obtain ⟨_, _, commanded⟩ := Checked.bind_eq_ok_iff.mp commanded
    exact nomatch commanded
  · exact nomatch commanded
  · exact nomatch commanded

/-! ## Work -/

structure Session.SetUp (session : Session) (d : Desk) (s : Settings) (chain : UInt64) : Prop where
  desk : session.desk = d
  settings : session.settings = s
  client : ChainSetup.client s d.around chain = .ok session.client
  context : ∃ token,
    ChainSetup.context s d.around chain session.tokens token = .ok session.context

structure Work.Quiet (work : Work) (store : AuditStore) : Prop where
  store : work.store = store
  silent : ∀ request ∈ work.requests, request.commits = false

theorem Session.Step.Quiet.work {step : Session.Step} {store : AuditStore}
    (quiet : step.Quiet store) (client : RpcClient) :
    (step.work client [.chainId]).Quiet store := by
  refine ⟨quiet.store, List.forall_mem_cons.mpr ⟨rfl, ?_⟩⟩
  intro request member
  obtain ⟨call, asked, made⟩ := List.mem_flatMap.mp member
  exact RpcClient.commits_of_reads (quiet.reads call asked) request made

theorem quiet_or_acts (d : Desk) (s : Settings) (chain : UInt64) (store : AuditStore)
    (act : Session → AuditStore → Session.Step) :
    (trading d s chain store act).Quiet store ∨ ∃ session : Session, session.SetUp d s chain ∧
      trading d s chain store act = (act session store).work session.client [.chainId] := by
  unfold trading
  dsimp only
  split
  · exact .inl ⟨rfl, nofun⟩
  rename_i tokens _
  split
  · refine .inl ⟨rfl, fun request member => ?_⟩
    rw [ChainSetup.requests_run request member]
    rfl
  rename_i context client built
  obtain ⟨reached, contextual, requests⟩ := ChainSetup.run_eq_ok built
  have same : context.chainId = chain := ChainSetup.chainId_of_context contextual
  subst same
  simp only [ChainRegistry.get_insert, requests]
  exact .inr ⟨⟨d, s, tokens, context, client⟩, ⟨rfl, rfl, reached, _, contextual⟩, rfl⟩

/-- The requests submit one transaction at most. The payer signs it and sends it to the router. -/
structure Submits (requests : List RpcRequest) (client : RpcClient) (payer router : Address) :
    Prop where
  signer : client.wallet = some payer
  once : requests.countP RpcRequest.submits ≤ 1
  calls : ∃ calls : List ChainCall, requests = .chainId :: calls.flatMap client.requests ∧
    ∀ transaction, .broadcast transaction ∈ calls →
      transaction.sender = some payer ∧ transaction.destination = some (.account router)

theorem Session.Step.Sends.submits {step : Session.Step} {store : AuditStore} {client : RpcClient}
    {payer router : Address} (sends : step.Sends store payer router)
    (signer : client.wallet = some payer) :
    Submits (step.work client [.chainId]).requests client payer router where
  signer := signer
  once := by
    have filled : ∀ transaction, .broadcast transaction ∈ step.calls → transaction.Filled :=
      fun transaction asked => (sends.broadcast transaction asked).1
    have asking : ¬ RpcRequest.chainId.submits = true := nofun
    change (.chainId :: step.calls.flatMap client.requests).countP RpcRequest.submits ≤ 1
    rw [List.countP_cons_of_neg asking]
    exact Nat.le_trans (RpcClient.countP_submits_le filled) sends.once
  calls := ⟨step.calls, rfl, fun transaction asked => (sends.broadcast transaction asked).2⟩

theorem quiet_or_submits_perform (d : Desk) (s : Settings) (chain : UInt64) (store : AuditStore)
    (command : Command) :
    let work := perform d s chain store command
    work.Quiet store ∨ ∃ t asked noWait slippageBps,
      command = .swap t asked noWait slippageBps ∧
      ∃ (session : Session) (quote : Quote) (payer router : Address),
        session.SetUp d s chain ∧ session.Cleared t asked quote payer router ∧
        Submits work.requests session.client payer router ∧
        ∃ added, work.store.rows = store.rows ++ added ∧ added.length ≤ 1 := by
  intro work
  cases command with
  | history uid limit => exact .inl ⟨rfl, nofun⟩
  | quote t =>
      have quiet_or_acts : work.Quiet store ∨ _ :=
        quiet_or_acts d s chain store fun session => session.quote t
      rcases quiet_or_acts with quiet | ⟨session, setUp, acts⟩
      · exact .inl quiet
      · change work = _ at acts
        rw [acts]
        exact .inl ((session.quiet_quote t store).work session.client)
  | swap t asked noWait slippageBps =>
      have quiet_or_acts : work.Quiet store ∨ _ :=
        quiet_or_acts d s chain store fun session => session.swap t asked noWait slippageBps
      rcases quiet_or_acts with quiet | ⟨session, setUp, acts⟩
      · exact .inl quiet
      · change work = _ at acts
        rw [acts]
        rcases session.quiet_or_sends_swap t asked noWait slippageBps store
          with quiet | ⟨quote, payer, router, cleared, sends⟩
        · exact .inl (quiet.work session.client)
        · have reached := setUp.client
          rw [← setUp.settings] at reached
          have signer := ChainSetup.wallet_of_client cleared.keyed cleared.wallet reached
          exact .inr ⟨t, asked, noWait, slippageBps, rfl, session, quote, payer, router, setUp,
            cleared, sends.submits signer, sends.recorded⟩

/-! ## Runs -/

/-- The run has been told to broadcast a swap, by a flag on its command line or by its settings. -/
structure Told (d : Desk) (tokens : List String) (inv : Invocation) (t : TradeArguments)
    (asked : Bool) (s : Settings) : Prop where
  read : read tokens = .ok inv
  swap : ∃ noWait slippageBps, inv.command = .swap t asked noWait slippageBps
  flagged : asked = true → "--prod" ∈ tokens
  settings : Settings.load d.around.env d.around.tree inv.config = .ok s
  production : (asked || s.production) = true

/-- The run has left all stores as they were and has asked for nothing that commits. -/
structure Outcome.Quiet (o : Outcome) (d : Desk) : Prop where
  untouched : d.shelf.Untouched o.shelf
  silent : ∀ request ∈ o.requests, request.commits = false

/-- What a run may do. It is quiet, or it has been told to broadcast, its trade has a route for an
amount that is not zero, and it submits one transaction at most, to the router of the route's
platform, and adds one row at most to one store. -/
inductive Conduct (d : Desk) (tokens : List String) (o : Outcome) : Prop
  | quiet (quiet : o.Quiet d)
  | told {inv : Invocation} {t : TradeArguments} {asked : Bool} {session : Session}
      {chain : UInt64} {quote : Quote} {payer router : Address}
      (told : Told d tokens inv t asked session.settings)
      (chosen : inv.chain.or session.settings.chains.head? = some chain)
      (setUp : session.SetUp d session.settings chain)
      (cleared : session.Cleared t asked quote payer router)
      (submits : Submits o.requests session.client payer router)
      (recorded : ∃ added, added.length ≤ 1 ∧ ∀ place,
        o.shelf.rowsAt place = d.shelf.rowsAt place ∨
          o.shelf.rowsAt place = d.shelf.rowsAt place ++ added)

theorem conduct_invoke {tokens : List String} {inv : Invocation} (d : Desk)
    (given : read tokens = .ok inv) : Conduct d tokens (invoke d inv) := by
  have idle {ending : Ending} : Conduct d tokens { ending, shelf := d.shelf } :=
    .quiet ⟨fun _ => rfl, nofun⟩
  unfold invoke
  cases settings : Settings.load d.around.env d.around.tree inv.config with
  | error why => exact idle
  | ok s =>
      dsimp only
      split
      · exact idle
      rename_i chain chosen
      split
      · exact idle
      rename_i store putBack opened
      obtain ⟨location, _, opened⟩ := Option.bind_eq_some_iff.mp opened
      have kept := StoreShelf.rowsAt_putBack opened
      rcases quiet_or_submits_perform d s chain store inv.command with quiet |
        ⟨t, asked, noWait, bps, command, session, _, _, _, setUp, cleared, submits, added,
          appended, short⟩
      · refine .quiet ⟨fun place => ?_, quiet.silent⟩
        rcases kept (perform d s chain store inv.command).store place with same | ⟨taken, put⟩
        · exact same
        · rw [put, taken, quiet.store]
      · cases setUp.settings
        have flagged : asked = true → "--prod" ∈ tokens := by
          rintro rfl
          exact prod_mem_of_read given command
        have told : Told d tokens inv t asked session.settings :=
          ⟨given, ⟨noWait, bps, command⟩, flagged, settings, cleared.production⟩
        refine .told told chosen setUp cleared submits ⟨added, short, fun place => ?_⟩
        rcases kept (perform d session.settings chain store inv.command).store place
          with same | ⟨taken, put⟩
        · exact .inl same
        · exact .inr (by rw [put, taken, appended])

/-- A run that has not been told to broadcast leaves all stores as they were and asks for nothing
that commits, whatever else it does; and one that has been told to does no more than it was told.
A store in memory, which no shelf keeps, changes under such a swap only, too. -/
theorem quiet_unless_told (d : Desk) (tokens : List String) :
    ((¬ ∃ inv t asked s, Told d tokens inv t asked s) → (run d tokens).Quiet d) ∧
    Conduct d tokens (run d tokens) ∧
    ∀ s chain store command, (perform d s chain store command).store ≠ store →
      ∃ t asked noWait slippageBps, command = .swap t asked noWait slippageBps ∧
        (asked || s.production) = true := by
  have conduct : Conduct d tokens (run d tokens) := by
    unfold run
    cases given : read tokens with
    | error why => exact .quiet ⟨fun _ => rfl, nofun⟩
    | ok inv => exact conduct_invoke d given
  refine ⟨fun untold => ?_, conduct, ?_⟩
  · cases conduct with
    | quiet quiet => exact quiet
    | told told => exact absurd ⟨_, _, _, _, told⟩ untold
  · intro s chain store command changed
    rcases quiet_or_submits_perform d s chain store command with quiet |
      ⟨t, asked, noWait, bps, swap, session, _, _, _, setUp, cleared, _⟩
    · exact absurd quiet.store changed
    · cases setUp.settings
      exact ⟨t, asked, noWait, bps, swap, cleared.production⟩

end CommandLine

end SwapDesk
