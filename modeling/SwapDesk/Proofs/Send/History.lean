import Mathlib.Data.List.Nodup
import SwapDesk.Proofs.Send.Rows

namespace SwapDesk

inductive AuditCall where
  | save (row : NewRow)
  | confirm (hash : Hash) (update : RowUpdate)

namespace AuditCall

def saved? : AuditCall → Option NewRow
  | save row => some row
  | confirm _ _ => none

def updateOf? (hash : Hash) : AuditCall → Option RowUpdate
  | save _ => none
  | confirm other update => if other = hash then some update else none

def integers : AuditCall → List (String × UInt64)
  | save row => row.integers
  | confirm _ update => update.integers

end AuditCall

namespace AuditStore

/-! ## What calls say -/

def saves (calls : List AuditCall) : List NewRow :=
  calls.filterMap AuditCall.saved?

def lastUpdate? (hash : Hash) (calls : List AuditCall) : Option RowUpdate :=
  (calls.filterMap (AuditCall.updateOf? hash)).getLast?

theorem saves_append_save (calls : List AuditCall) (r : NewRow) :
    saves (calls ++ [.save r]) = saves calls ++ [r] := by
  rw [saves, List.filterMap_append]
  rfl

theorem saves_append_confirm (calls : List AuditCall) (hash : Hash) (u : RowUpdate) :
    saves (calls ++ [.confirm hash u]) = saves calls := by
  rw [saves, List.filterMap_append]
  exact List.append_nil _

theorem lastUpdate?_append_save (hash : Hash) (calls : List AuditCall) (r : NewRow) :
    lastUpdate? hash (calls ++ [.save r]) = lastUpdate? hash calls := by
  rw [lastUpdate?, List.filterMap_append]
  exact congrArg List.getLast? (List.append_nil _)

theorem lastUpdate?_append_confirm (hash other : Hash) (calls : List AuditCall) (u : RowUpdate) :
    lastUpdate? hash (calls ++ [.confirm other u]) =
      if other = hash then some u else lastUpdate? hash calls := by
  by_cases same : other = hash
  · simp [lastUpdate?, AuditCall.updateOf?, same]
  · simp [lastUpdate?, AuditCall.updateOf?, same]

theorem lastUpdate?_eq_none {hash : Hash} {calls : List AuditCall}
    (never : ∀ u, .confirm hash u ∉ calls) : lastUpdate? hash calls = none := by
  have nothing : calls.filterMap (AuditCall.updateOf? hash) = [] := by
    rw [List.filterMap_eq_nil_iff]
    intro call member
    cases call with
    | save r => rfl
    | confirm other u =>
        refine if_neg ?_
        rintro rfl
        exact never u member
  rw [lastUpdate?, nothing]
  rfl

theorem confirm_mem_of_lastUpdate? {hash : Hash} {calls : List AuditCall} {u : RowUpdate}
    (last : lastUpdate? hash calls = some u) : .confirm hash u ∈ calls := by
  obtain ⟨call, member, updates⟩ := List.mem_filterMap.mp (List.mem_of_getLast? last)
  cases call with
  | save r => exact nomatch updates
  | confirm other v =>
      rw [AuditCall.updateOf?] at updates
      split at updates
      · rename_i same
        cases same
        cases updates
        exact member
      · exact nomatch updates

/-! ## One call -/

def apply (s : AuditStore) : AuditCall → Except StoreFault AuditStore
  | .save r => (s.save r).map Prod.snd
  | .confirm hash u => s.confirm hash u

inductive Accepts (s : AuditStore) : AuditCall → AuditStore → Prop
  | save {r : NewRow} (fit : Fit r.integers) (fresh : s.withHash r.hash = []) :
      Accepts s (.save r) ⟨s.rows ++ [rowOf s.nextId r]⟩
  | confirm {hash : Hash} {u : RowUpdate} (fit : Fit u.integers)
      (known : s.withHash hash ≠ []) :
      Accepts s (.confirm hash u)
        ⟨s.rows.map fun row => if row.hash = hash then updated u row else row⟩

inductive Refuses (s : AuditStore) : AuditCall → StoreFault → Prop
  | outOfRange {call : AuditCall} {column : String × UInt64} (member : column ∈ call.integers)
      (large : integerLimit ≤ column.2.toNat) :
      Refuses s call (.outOfRange column.1 column.2)
  | duplicateHash {r : NewRow} (known : ∃ row ∈ s.rows, row.hash = r.hash) :
      Refuses s (.save r) .duplicateHash
  | unknownHash {hash : Hash} {u : RowUpdate} (unknown : ∀ row ∈ s.rows, row.hash ≠ hash) :
      Refuses s (.confirm hash u) .unknownHash

theorem apply_result (s : AuditStore) (call : AuditCall) :
    (∃ s', s.apply call = .ok s' ∧ s.Accepts call s') ∨
      ∃ fault, s.apply call = .error fault ∧ s.Refuses call fault := by
  cases call with
  | save r =>
      simp only [apply]
      by_cases storable : r.Storable
      · by_cases fresh : s.withHash r.hash = []
        · rw [save_of_storable storable fresh]
          exact .inl ⟨_, rfl, .save (storable_iff.mp storable) fresh⟩
        · rw [save_of_known storable fresh]
          refine .inr ⟨_, rfl, .duplicateHash ?_⟩
          by_contra none
          exact fresh (withHash_eq_nil_iff.mpr fun row member same => none ⟨row, member, same⟩)
      · obtain ⟨column, member, large, refused⟩ := save_of_not_storable s storable
        rw [refused]
        exact .inr ⟨_, rfl, .outOfRange member large⟩
  | confirm hash u =>
      simp only [apply]
      by_cases fit : Fit u.integers
      · by_cases unknown : s.withHash hash = []
        · rw [confirm_of_unknown fit unknown]
          exact .inr ⟨_, rfl, .unknownHash (withHash_eq_nil_iff.mp unknown)⟩
        · rw [confirm_of_known fit unknown]
          exact .inl ⟨_, rfl, .confirm fit unknown⟩
      · obtain ⟨column, member, large, refused⟩ := confirm_of_not_fit s hash fit
        rw [refused]
        exact .inr ⟨_, rfl, .outOfRange member large⟩

theorem Accepts.fit {s s' : AuditStore} {call : AuditCall} (accepts : s.Accepts call s') :
    Fit call.integers := by
  cases accepts with
  | save fit => exact fit
  | confirm fit => exact fit

theorem Accepts.not_refuses {s s' : AuditStore} {call : AuditCall} {fault : StoreFault}
    (accepts : s.Accepts call s') : ¬ s.Refuses call fault := by
  intro refuses
  cases refuses with
  | outOfRange member large => exact Nat.not_lt.mpr large (accepts.fit _ member)
  | duplicateHash known =>
      cases accepts with
      | save _ fresh =>
          obtain ⟨row, member, same⟩ := known
          exact withHash_eq_nil_iff.mp fresh row member same
  | unknownHash unknown =>
      cases accepts with
      | confirm _ known => exact known (withHash_eq_nil_iff.mpr unknown)

theorem accepts_of_apply {s s' : AuditStore} {call : AuditCall} (applied : s.apply call = .ok s') :
    s.Accepts call s' := by
  rcases s.apply_result call with ⟨s'', applied', accepts⟩ | ⟨fault, refused, _⟩
  · cases applied.symm.trans applied'
    exact accepts
  · exact nomatch applied.symm.trans refused

theorem refuses_of_apply {s : AuditStore} {call : AuditCall} {fault : StoreFault}
    (failed : s.apply call = .error fault) : s.Refuses call fault := by
  rcases s.apply_result call with ⟨s', applied, _⟩ | ⟨fault', refused, refuses⟩
  · exact nomatch failed.symm.trans applied
  · cases failed.symm.trans refused
    exact refuses

theorem apply_eq_error_iff {s : AuditStore} {call : AuditCall} :
    (∃ fault, s.apply call = .error fault) ↔ ∃ fault, s.Refuses call fault := by
  rcases s.apply_result call with ⟨s', applied, accepts⟩ | ⟨fault, refused, refuses⟩
  · rw [applied]
    exact iff_of_false (fun ⟨_, refused⟩ => nomatch refused) fun ⟨_, refuses⟩ =>
      accepts.not_refuses refuses
  · exact iff_of_true ⟨fault, refused⟩ ⟨fault, refuses⟩

/-! ## A history of calls -/

def after (s : AuditStore) (call : AuditCall) : AuditStore :=
  (s.apply call).toOption.getD s

def run (s : AuditStore) (calls : List AuditCall) : AuditStore :=
  calls.foldl after s

def accepted (s : AuditStore) : List AuditCall → List AuditCall
  | [] => []
  | call :: calls =>
      match s.apply call with
      | .ok s' => call :: s'.accepted calls
      | .error _ => s.accepted calls

/-- What every accepted call preserves holds after a run, of the calls that were accepted. -/
theorem run_induction {P : AuditStore → List AuditCall → Prop}
    (step : ∀ {s s' done call}, P s done → s.Accepts call s' → P s' (done ++ [call]))
    {s : AuditStore} (done : List AuditCall) (holds : P s done) (calls : List AuditCall) :
    P (s.run calls) (done ++ s.accepted calls) := by
  induction calls generalizing s done with
  | nil =>
      rw [accepted, List.append_nil]
      exact holds
  | cons call calls ih =>
      cases applied : s.apply call with
      | ok s' =>
          have later := ih (done ++ [call]) (step holds (accepts_of_apply applied))
          rw [List.append_assoc] at later
          simp only [run, List.foldl_cons, after, accepted, applied]
          exact later
      | error fault =>
          simp only [run, List.foldl_cons, after, accepted, applied]
          exact ih done holds

theorem run_append (s : AuditStore) (calls more : List AuditCall) :
    s.run (calls ++ more) = (s.run calls).run more :=
  List.foldl_append

def settled (last? : Option RowUpdate) (row : AuditRow) : AuditRow :=
  (last?.map (updated · row)).getD row

theorem hash_settled (last? : Option RowUpdate) (row : AuditRow) :
    (settled last? row).hash = row.hash := by
  cases last? with
  | none => rfl
  | some u => rfl

theorem id_settled (last? : Option RowUpdate) (row : AuditRow) :
    (settled last? row).id = row.id := by
  cases last? with
  | none => rfl
  | some u => rfl

theorem updated_settled (last? : Option RowUpdate) (u : RowUpdate) (row : AuditRow) :
    updated u (settled last? row) = settled (some u) row := by
  cases last? with
  | none => rfl
  | some u => rfl

def rowAt (calls : List AuditCall) (place : Nat) (r : NewRow) : AuditRow :=
  settled (lastUpdate? r.hash calls) (rowOf (place + 1) r)

theorem rowAt_append_save (calls : List AuditCall) (r : NewRow) :
    rowAt (calls ++ [.save r]) = rowAt calls := by
  funext place other
  rw [rowAt, lastUpdate?_append_save]
  rfl

theorem rowAt_append_confirm (calls : List AuditCall) (hash : Hash) (u : RowUpdate) (place : Nat)
    (r : NewRow) :
    rowAt (calls ++ [.confirm hash u]) place r =
      if (rowAt calls place r).hash = hash then updated u (rowAt calls place r)
      else rowAt calls place r := by
  have sameHash : (rowAt calls place r).hash = r.hash := hash_settled _ _
  rw [sameHash, rowAt, lastUpdate?_append_confirm]
  by_cases same : hash = r.hash
  · rw [if_pos same, if_pos same.symm]
    exact (updated_settled _ u _).symm
  · rw [if_neg same, if_neg (Ne.symm same)]
    rfl

/-- The store is what the accepted calls make of it. -/
structure Reflects (s : AuditStore) (done : List AuditCall) : Prop where
  rows : s.rows = (saves done).mapIdx (rowAt done)
  distinct : ((saves done).map NewRow.hash).Nodup
  fit : ∀ call ∈ done, Fit call.integers
  known : ∀ hash u, .confirm hash u ∈ done → hash ∈ (saves done).map NewRow.hash

namespace Reflects

variable {s s' : AuditStore} {done : List AuditCall}

theorem empty : Reflects {} [] where
  rows := rfl
  distinct := List.nodup_nil
  fit _ member := nomatch member
  known _ _ member := nomatch member

theorem length_rows (reflects : s.Reflects done) : s.rows.length = (saves done).length := by
  rw [reflects.rows, List.length_mapIdx]

theorem getElem?_rows (reflects : s.Reflects done) (i : Nat) :
    s.rows[i]? = (saves done)[i]?.map (rowAt done i) := by
  rw [reflects.rows, List.getElem?_mapIdx]

theorem map_hash (reflects : s.Reflects done) :
    s.rows.map AuditRow.hash = (saves done).map NewRow.hash := by
  apply List.ext_getElem?
  intro i
  rw [List.getElem?_map, List.getElem?_map, reflects.getElem?_rows, Option.map_map]
  refine congrFun (congrArg Option.map ?_) _
  funext r
  exact hash_settled _ _

theorem id_getElem (reflects : s.Reflects done) {i : Nat} (inside : i < s.rows.length) :
    s.rows[i].id = i + 1 := by
  have here := reflects.getElem?_rows i
  rw [List.getElem?_eq_getElem inside] at here
  obtain ⟨r, _, row⟩ := Option.map_eq_some_iff.mp here.symm
  rw [← row]
  exact id_settled _ _

theorem withHash_eq_nil_iff (reflects : s.Reflects done) {hash : Hash} :
    s.withHash hash = [] ↔ hash ∉ (saves done).map NewRow.hash := by
  rw [AuditStore.withHash_eq_nil_iff, ← reflects.map_hash]
  simp

theorem step {call : AuditCall} (reflects : s.Reflects done) (accepts : s.Accepts call s') :
    s'.Reflects (done ++ [call]) := by
  have fit : ∀ other ∈ done ++ [call], Fit other.integers := by
    rw [List.forall_mem_append, List.forall_mem_singleton]
    exact ⟨reflects.fit, accepts.fit⟩
  cases accepts with
  | @save r _ fresh =>
      have new := reflects.withHash_eq_nil_iff.mp fresh
      have unconfirmed : lastUpdate? r.hash done = none :=
        lastUpdate?_eq_none fun u member => new (reflects.known _ u member)
      have last : rowAt done (saves done).length r = rowOf s.nextId r := by
        rw [rowAt, unconfirmed, nextId, reflects.length_rows]
        rfl
      refine { rows := ?_, distinct := ?_, fit := fit, known := ?_ }
      · rw [saves_append_save, rowAt_append_save, List.mapIdx_concat, last, ← reflects.rows]
      · rw [saves_append_save, List.map_append]
        have longer := List.Nodup.concat new reflects.distinct
        rwa [List.concat_eq_append] at longer
      · intro hash u member
        rw [saves_append_save, List.map_append]
        rcases List.mem_append.mp member with earlier | here
        · exact List.mem_append_left _ (reflects.known hash u earlier)
        · exact nomatch List.mem_singleton.mp here
  | @confirm hash u _ known =>
      refine { rows := ?_, distinct := ?_, fit := fit, known := ?_ }
      · rw [saves_append_confirm]
        apply List.ext_getElem?
        intro i
        rw [List.getElem?_map, reflects.getElem?_rows, List.getElem?_mapIdx, Option.map_map]
        refine congrFun (congrArg Option.map ?_) _
        funext r
        exact (rowAt_append_confirm done hash u i r).symm
      · rw [saves_append_confirm]
        exact reflects.distinct
      · intro other v member
        rw [saves_append_confirm]
        rcases List.mem_append.mp member with earlier | here
        · exact reflects.known other v earlier
        · cases List.mem_singleton.mp here
          by_contra absent
          exact known (reflects.withHash_eq_nil_iff.mpr absent)

theorem run (calls : List AuditCall) : (AuditStore.run {} calls).Reflects (accepted {} calls) :=
  run_induction Reflects.step [] empty calls

end Reflects

theorem Accepts.prefix_map_written {s s' : AuditStore} {call : AuditCall}
    (accepts : s.Accepts call s') :
    s.rows.map AuditRow.written <+: s'.rows.map AuditRow.written := by
  cases accepts with
  | save fit fresh =>
      rw [List.map_append]
      exact List.prefix_append _ _
  | confirm fit known =>
      have same := map_written_of_confirm (confirm_of_known fit known)
      exact same ▸ List.prefix_refl _

theorem prefix_map_written_run (s : AuditStore) (calls : List AuditCall) :
    s.rows.map AuditRow.written <+: (s.run calls).rows.map AuditRow.written := by
  refine run_induction
    (P := fun s' _ => s.rows.map AuditRow.written <+: s'.rows.map AuditRow.written)
    ?_ [] (List.prefix_refl _) calls
  intro s' s'' _ call kept accepts
  exact kept.trans accepts.prefix_map_written

/-! ## What the rows show -/

/-- The row shows what was saved and, in the columns of a receipt, what was confirmed last. -/
structure Shows (row : AuditRow) (id : Nat) (r : NewRow) (last? : Option RowUpdate) : Prop where
  id : row.id = id
  uid : row.uid = r.uid
  chain : row.chain = r.chain
  method : row.method = r.method
  func : row.func = r.func
  context : row.context = r.context.render
  hash : row.hash = r.hash
  sender : row.sender = r.sender
  target : row.target = r.target
  nonce : row.nonce = r.nonce
  gasLimit : row.gasLimit = r.gasLimit
  block : row.block = last?.map RowUpdate.block
  gasUsed : row.gasUsed = last?.map RowUpdate.gasUsed
  gasPrice : row.gasPrice = (last?.map RowUpdate.gasPrice).getD r.gasPrice
  status : row.status = last?.map RowUpdate.status
  fit : Fit r.integers
  updateFit : ∀ u, last? = some u → Fit u.integers

theorem shows_settled {r : NewRow} {last? : Option RowUpdate} (id : Nat) (fit : Fit r.integers)
    (updateFit : ∀ u, last? = some u → Fit u.integers) :
    Shows (settled last? (rowOf id r)) id r last? := by
  cases last? with
  | none => constructor <;> first | rfl | assumption
  | some u => constructor <;> first | rfl | assumption

structure Tells (s : AuditStore) (done : List AuditCall) : Prop where
  distinct : (s.rows.map AuditRow.hash).Nodup
  ascending : (s.rows.map AuditRow.id).Pairwise (· < ·)
  counted : s.count = (saves done).length
  each : ∀ (i : Nat) (r : NewRow), (saves done)[i]? = some r →
    ∃ row, s.rows[i]? = some row ∧ Shows row (i + 1) r (lastUpdate? r.hash done)

theorem Reflects.shows {s : AuditStore} {done : List AuditCall} (reflects : s.Reflects done)
    {i : Nat} {r : NewRow} (saved : (saves done)[i]? = some r) :
    Shows (rowAt done i r) (i + 1) r (lastUpdate? r.hash done) := by
  obtain ⟨call, member, saves⟩ := List.mem_filterMap.mp (List.mem_of_getElem? saved)
  have fit : Fit r.integers := by
    cases call with
    | save other =>
        cases saves
        exact reflects.fit _ member
    | confirm => exact nomatch saves
  exact shows_settled (i + 1) fit fun u last =>
    reflects.fit _ (confirm_mem_of_lastUpdate? last)

theorem Reflects.tells {s : AuditStore} {done : List AuditCall} (reflects : s.Reflects done) :
    s.Tells done where
  distinct := by
    rw [reflects.map_hash]
    exact reflects.distinct
  ascending := by
    rw [List.pairwise_map, List.pairwise_iff_getElem]
    intro i j insideI insideJ before
    rw [reflects.id_getElem insideI, reflects.id_getElem insideJ]
    omega
  counted := reflects.length_rows
  each i r saved := by
    refine ⟨rowAt done i r, ?_, reflects.shows saved⟩
    rw [reflects.getElem?_rows, saved]
    rfl

/-- After any history of calls from an empty store, each hash has one row, the ids ascend, and the
rows are those of the successful saves, each with what was saved and with the last successful
confirmation of its hash. Later calls remove no row and change nothing that was saved in it. A call
fails exactly when an integer does not fit, a saved hash is known or a confirmed one is not, and
then it changes nothing. -/
theorem history_of_run (calls more : List AuditCall) :
    let s := run {} calls
    s.Tells (accepted {} calls) ∧
    s.rows.map AuditRow.written <+: (run {} (calls ++ more)).rows.map AuditRow.written ∧
    s.count ≤ (run {} (calls ++ more)).count ∧
    ∀ call : AuditCall,
      ((∃ fault, s.apply call = .error fault) ↔ ∃ fault, s.Refuses call fault) ∧
      ∀ fault, s.apply call = .error fault → s.Refuses call fault ∧ s.after call = s := by
  intro s
  have kept := prefix_map_written_run s more
  rw [← run_append] at kept
  refine ⟨(Reflects.run calls).tells, kept, ?_, ?_⟩
  · have shorter := kept.length_le
    rwa [List.length_map, List.length_map] at shorter
  · intro call
    refine ⟨apply_eq_error_iff, ?_⟩
    intro fault failed
    refine ⟨refuses_of_apply failed, ?_⟩
    rw [after, failed]
    rfl

end AuditStore

end SwapDesk
