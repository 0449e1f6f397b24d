import SwapDesk.Proofs.Checked
import SwapDesk.Send.AuditStore

namespace SwapDesk

def NewRow.integers (r : NewRow) : List (String × UInt64) :=
  [("chain_id", r.chain), ("nonce", r.nonce), ("gas_limit", r.gasLimit)]

def RowUpdate.integers (u : RowUpdate) : List (String × UInt64) :=
  [("block_number", u.block), ("gas_used", u.gasUsed)]

structure NewRow.Storable (r : NewRow) : Prop where
  chain : r.chain.toNat < AuditStore.integerLimit
  nonce : r.nonce.toNat < AuditStore.integerLimit
  gasLimit : r.gasLimit.toNat < AuditStore.integerLimit

/-- The row without the columns that a receipt fills in. -/
def AuditRow.written (row : AuditRow) : AuditRow :=
  { row with gasPrice := 0, gasUsed := none, block := none, status := none }

namespace AuditStore

def withHash (s : AuditStore) (hash : Hash) : List AuditRow :=
  s.rows.filter fun row => row.hash == hash

theorem withHash_eq_nil_iff {s : AuditStore} {hash : Hash} :
    s.withHash hash = [] ↔ ∀ row ∈ s.rows, row.hash ≠ hash := by
  simp [withHash]

theorem any_hash_iff {s : AuditStore} {hash : Hash} :
    (s.rows.any fun row => row.hash == hash) = true ↔ s.withHash hash ≠ [] := by
  rw [Ne, withHash_eq_nil_iff]
  simp

def Fit (columns : List (String × UInt64)) : Prop :=
  ∀ column ∈ columns, column.2.toNat < integerLimit

theorem storable_iff {r : NewRow} : r.Storable ↔ Fit r.integers := by
  constructor
  · rintro ⟨chain, nonce, gasLimit⟩
    simp [Fit, NewRow.integers, chain, nonce, gasLimit]
  · intro fit
    exact ⟨fit ("chain_id", r.chain) (by simp [NewRow.integers]),
      fit ("nonce", r.nonce) (by simp [NewRow.integers]),
      fit ("gas_limit", r.gasLimit) (by simp [NewRow.integers])⟩

def checkColumns (columns : List (String × UInt64)) (last : Except StoreFault Unit) :
    Except StoreFault Unit :=
  columns.foldr (fun column rest => inRange column.1 column.2 >>= fun _ => rest) last

theorem checkColumns_of_fit {columns : List (String × UInt64)} (fit : Fit columns)
    (last : Except StoreFault Unit) : checkColumns columns last = last := by
  induction columns with
  | nil => rfl
  | cons column columns ih =>
      have passed : inRange column.1 column.2 = .ok () := if_pos (fit column List.mem_cons_self)
      have others : Fit columns := fun other member => fit other (List.mem_cons_of_mem _ member)
      rw [checkColumns, List.foldr_cons, passed]
      exact ih others

theorem checkColumns_of_not_fit {columns : List (String × UInt64)} (excess : ¬ Fit columns)
    (last : Except StoreFault Unit) :
    ∃ column ∈ columns, integerLimit ≤ column.2.toNat ∧
      checkColumns columns last = .error (.outOfRange column.1 column.2) := by
  induction columns with
  | nil => exact absurd (fun _ member => nomatch member) excess
  | cons column columns ih =>
      by_cases small : column.2.toNat < integerLimit
      · have later : ¬ Fit columns := by
          intro others
          exact excess (List.forall_mem_cons.mpr ⟨small, others⟩)
        have passed : inRange column.1 column.2 = .ok () := if_pos small
        obtain ⟨other, member, large, refused⟩ := ih later
        refine ⟨other, List.mem_cons_of_mem _ member, large, ?_⟩
        rw [checkColumns, List.foldr_cons, passed]
        exact refused
      · have stopped : inRange column.1 column.2 = .error (.outOfRange column.1 column.2) :=
          if_neg small
        refine ⟨column, List.mem_cons_self, Nat.le_of_not_lt small, ?_⟩
        rw [checkColumns, List.foldr_cons, stopped]
        rfl

theorem checkNew_eq (s : AuditStore) (r : NewRow) :
    checkNew s r = checkColumns r.integers
      (if s.withHash r.hash = [] then .ok () else .error .duplicateHash) := by
  have last : (if s.rows.any fun row => row.hash == r.hash then .error .duplicateHash else .ok () :
      Except StoreFault Unit) =
        if s.withHash r.hash = [] then .ok () else .error .duplicateHash := by
    simp only [any_hash_iff, ite_not]
  rw [← last]
  rfl

theorem save_of_storable {s : AuditStore} {r : NewRow} (storable : r.Storable)
    (fresh : s.withHash r.hash = []) :
    s.save r = .ok (rowOf s.nextId r, ⟨s.rows ++ [rowOf s.nextId r]⟩) := by
  rw [save, checkNew_eq, checkColumns_of_fit (storable_iff.mp storable), if_pos fresh]
  rfl

theorem save_of_known {s : AuditStore} {r : NewRow} (storable : r.Storable)
    (known : s.withHash r.hash ≠ []) : s.save r = .error .duplicateHash := by
  rw [save, checkNew_eq, checkColumns_of_fit (storable_iff.mp storable), if_neg known]
  rfl

theorem save_of_not_storable (s : AuditStore) {r : NewRow} (excessive : ¬ r.Storable) :
    ∃ column ∈ r.integers, integerLimit ≤ column.2.toNat ∧
      s.save r = .error (.outOfRange column.1 column.2) := by
  obtain ⟨column, member, large, refused⟩ :=
    checkColumns_of_not_fit (mt storable_iff.mpr excessive) _
  refine ⟨column, member, large, ?_⟩
  rw [save, checkNew_eq, refused]
  rfl

theorem save_eq_ok {s s' : AuditStore} {r : NewRow} {saved : AuditRow}
    (entered : s.save r = .ok (saved, s')) :
    saved = rowOf s.nextId r ∧ s' = ⟨s.rows ++ [saved]⟩ ∧ s.withHash r.hash = [] := by
  by_cases storable : r.Storable
  · by_cases fresh : s.withHash r.hash = []
    · cases (save_of_storable storable fresh).symm.trans entered
      exact ⟨rfl, rfl, fresh⟩
    · exact nomatch (save_of_known storable fresh).symm.trans entered
  · obtain ⟨column, _, _, refused⟩ := save_of_not_storable s storable
    exact nomatch refused.symm.trans entered

theorem withHash_append (s : AuditStore) (row : AuditRow) (hash : Hash) :
    AuditStore.withHash ⟨s.rows ++ [row]⟩ hash =
      s.withHash hash ++ if row.hash = hash then [row] else [] := by
  by_cases same : row.hash = hash <;> simp [withHash, same]

theorem checkUpdate_eq (s : AuditStore) (hash : Hash) (u : RowUpdate) :
    checkUpdate s hash u = checkColumns u.integers
      (if s.withHash hash = [] then .error .unknownHash else .ok ()) := by
  have last : (if s.rows.any fun row => row.hash == hash then .ok () else .error .unknownHash :
      Except StoreFault Unit) =
        if s.withHash hash = [] then .error .unknownHash else .ok () := by
    simp only [any_hash_iff, ite_not]
  rw [← last]
  rfl

theorem confirm_of_known {s : AuditStore} {hash : Hash} {u : RowUpdate} (fit : Fit u.integers)
    (known : s.withHash hash ≠ []) :
    s.confirm hash u =
      .ok ⟨s.rows.map fun row => if row.hash = hash then updated u row else row⟩ := by
  rw [confirm, checkUpdate_eq, checkColumns_of_fit fit, if_neg known]
  rfl

theorem confirm_of_unknown {s : AuditStore} {hash : Hash} {u : RowUpdate} (fit : Fit u.integers)
    (unknown : s.withHash hash = []) : s.confirm hash u = .error .unknownHash := by
  rw [confirm, checkUpdate_eq, checkColumns_of_fit fit, if_pos unknown]
  rfl

theorem confirm_of_not_fit (s : AuditStore) (hash : Hash) {u : RowUpdate}
    (excess : ¬ Fit u.integers) :
    ∃ column ∈ u.integers, integerLimit ≤ column.2.toNat ∧
      s.confirm hash u = .error (.outOfRange column.1 column.2) := by
  obtain ⟨column, member, large, refused⟩ := checkColumns_of_not_fit excess _
  refine ⟨column, member, large, ?_⟩
  rw [confirm, checkUpdate_eq, refused]
  rfl

theorem written_updated (u : RowUpdate) (row : AuditRow) :
    (updated u row).written = row.written :=
  rfl

theorem map_written_of_confirm {s s' : AuditStore} {hash : Hash} {u : RowUpdate}
    (confirmed : s.confirm hash u = .ok s') :
    s'.rows.map AuditRow.written = s.rows.map AuditRow.written := by
  obtain ⟨_, _, rfl⟩ := Checked.map_eq_ok_iff.mp confirmed
  simp only [List.map_map]
  apply List.map_congr_left
  intro row _
  by_cases same : row.hash = hash
  · simp only [Function.comp_apply, same, if_true, written_updated]
  · simp only [Function.comp_apply, same, if_false]

theorem rows_of_confirm_append {s s' : AuditStore} {row : AuditRow} {u : RowUpdate}
    (fresh : s.withHash row.hash = [])
    (confirmed : AuditStore.confirm ⟨s.rows ++ [row]⟩ row.hash u = .ok s') :
    s'.rows = s.rows ++ [updated u row] := by
  obtain ⟨_, _, rfl⟩ := Checked.map_eq_ok_iff.mp confirmed
  have unknown := withHash_eq_nil_iff.mp fresh
  have others :
      s.rows.map (fun other => if other.hash = row.hash then updated u other else other) =
        s.rows.map id :=
    List.map_congr_left fun other member => if_neg (unknown other member)
  simp [others]

theorem withHash_map_written (s : AuditStore) (hash : Hash) :
    (s.withHash hash).map AuditRow.written =
      (s.rows.map AuditRow.written).filter fun row => row.hash == hash := by
  rw [List.filter_map]
  rfl

/-- There is one row with the hash, and what was written in it is what the new row says. -/
def Records (s : AuditStore) (r : NewRow) : Prop :=
  ∃ row, s.withHash r.hash = [row] ∧ row.written = (rowOf row.id r).written

theorem records_append {s : AuditStore} {r : NewRow} (id : Nat)
    (fresh : s.withHash r.hash = []) : Records ⟨s.rows ++ [rowOf id r]⟩ r := by
  refine ⟨rowOf id r, ?_, rfl⟩
  rw [withHash_append, fresh]
  exact if_pos rfl

theorem Records.confirm {s s' : AuditStore} {r : NewRow} {hash : Hash} {u : RowUpdate}
    (records : s.Records r) (confirmed : s.confirm hash u = .ok s') : s'.Records r := by
  obtain ⟨row, only, written⟩ := records
  have kept : (s'.withHash r.hash).map AuditRow.written = [row.written] := by
    rw [withHash_map_written, map_written_of_confirm confirmed, ← withHash_map_written, only]
    rfl
  obtain ⟨row', rest, found, same, none⟩ := List.map_eq_cons_iff.mp kept
  have alone : rest = [] := List.map_eq_nil_iff.mp none
  subst alone
  refine ⟨row', found, ?_⟩
  have sameId : row'.written.id = row.written.id := congrArg AuditRow.id same
  change row'.id = row.id at sameId
  rw [same, written, sameId]

end AuditStore

end SwapDesk
