import Mathlib.Data.List.Sort
import SwapDesk.Proofs.Send.History
import SwapDesk.Send.AuditTable

namespace SwapDesk

namespace AuditStore

theorem recent_natCast (s : AuditStore) (n : Nat) :
    s.recent n = (s.rows.drop (s.rows.length - n)).reverse := by
  change s.rows.reverse.take n = _
  rw [List.reverse_drop, List.take_eq_take_iff, List.length_reverse]
  omega

theorem recent_of_neg (s : AuditStore) {limit : Int} (negative : limit < 0) :
    s.recent limit = s.rows.reverse := by
  cases limit with
  | ofNat n => exact absurd negative (Int.not_lt.mpr (Int.natCast_nonneg n))
  | negSucc n => rfl

end AuditStore

namespace AuditTable

def apply (t : AuditTable) (now : Nat) : AuditCall → Except StoreFault AuditTable
  | .save r => (t.save now r).map Prod.snd
  | .confirm hash u => t.confirm hash u

def after (t : AuditTable) (timed : Nat × AuditCall) : AuditTable :=
  (t.apply timed.1 timed.2).toOption.getD t

def run (t : AuditTable) (calls : List (Nat × AuditCall)) : AuditTable :=
  calls.foldl after t

variable {t t' : AuditTable}

theorem store_save (t : AuditTable) (now : Nat) (r : NewRow) :
    (t.save now r).map (fun saved => (saved.1.row, saved.2.store)) = t.store.save r := by
  rw [save, AuditStore.save]
  cases t.store.checkNew r with
  | error fault => rfl
  | ok _ =>
      simp [Except.map, store]

theorem store_confirm (t : AuditTable) (hash : Hash) (u : RowUpdate) :
    (t.confirm hash u).map store = t.store.confirm hash u := by
  rw [confirm, AuditStore.confirm]
  cases t.store.checkUpdate hash u with
  | error fault => rfl
  | ok _ =>
      simp only [Except.map, store, List.map_map]
      congr 2
      apply List.map_congr_left
      intro dated _
      by_cases same : dated.row.hash = hash <;> simp [same]

theorem store_apply (t : AuditTable) (now : Nat) (call : AuditCall) :
    (t.apply now call).map store = t.store.apply call := by
  cases call with
  | save r =>
      rw [apply, AuditStore.apply, ← store_save t now r]
      cases t.save now r <;> rfl
  | confirm hash u => exact store_confirm t hash u

theorem store_after (t : AuditTable) (timed : Nat × AuditCall) :
    (t.after timed).store = t.store.after timed.2 := by
  rw [after, AuditStore.after, ← store_apply t timed.1 timed.2]
  cases t.apply timed.1 timed.2 <;> rfl

theorem store_run (t : AuditTable) (calls : List (Nat × AuditCall)) :
    (t.run calls).store = t.store.run (calls.map Prod.snd) := by
  induction calls generalizing t with
  | nil => rfl
  | cons timed calls ih =>
      have later := ih (t.after timed)
      rw [store_after] at later
      exact later

theorem byTime_iff {a b : DatedRow} :
    byTime a b = true ↔ b.created < a.created ∨ b.created = a.created ∧ b.row.id ≤ a.row.id := by
  simp [byTime]

/-- Ids ascend in the order of the rows, and times do not descend. -/
structure Ascending (t : AuditTable) : Prop where
  ids : (t.rows.map fun dated => dated.row.id).Pairwise (· < ·)
  times : (t.rows.map DatedRow.created).Pairwise (· ≤ ·)

namespace Ascending

theorem forUid_eq (ascending : t.Ascending) (uid : Uid) : t.forUid uid = t.store.forUid uid := by
  have sorted : (t.rows.filter fun dated => dated.row.uid == uid).Pairwise
      fun a b => byId a b = true := by
    apply List.Pairwise.filter
    apply (List.pairwise_map.mp ascending.ids).imp
    intro a b before
    exact decide_eq_true (Nat.le_of_lt before)
  rw [forUid, List.mergeSort_of_pairwise sorted, store, AuditStore.forUid, List.filter_map]
  rfl

theorem eq_of_id {a b : DatedRow} (ascending : t.Ascending) (memberA : a ∈ t.rows)
    (memberB : b ∈ t.rows) (same : a.row.id = b.row.id) : a = b := by
  have distinct : (t.rows.map fun dated => dated.row.id).Nodup := ascending.ids.imp Nat.ne_of_lt
  exact List.inj_on_of_nodup_map distinct memberA memberB same

theorem mergeSort_byTime (ascending : t.Ascending) : t.rows.mergeSort byTime = t.rows.reverse := by
  have reversed : t.rows.reverse.Pairwise fun a b => byTime a b = true := by
    rw [List.pairwise_reverse]
    have ids := List.pairwise_map.mp ascending.ids
    have times := List.pairwise_map.mp ascending.times
    apply (ids.and times).imp
    intro a b before
    rw [byTime_iff]
    omega
  have sorted : (t.rows.mergeSort byTime).Pairwise fun a b => byTime a b = true := by
    apply List.pairwise_mergeSort
    · intro a b c
      simp only [byTime_iff]
      omega
    · intro a b
      rw [Bool.or_eq_true, byTime_iff, byTime_iff]
      omega
  have perm := (List.mergeSort_perm t.rows byTime).trans (List.reverse_perm t.rows).symm
  apply List.Perm.eq_of_pairwise _ sorted reversed perm
  intro a b memberA memberB before after
  -- Two rows can each come before the other only if they are one.
  rw [byTime_iff] at before after
  apply ascending.eq_of_id (List.mem_mergeSort.mp memberA) (List.mem_reverse.mp memberB)
  omega

theorem recent_eq (ascending : t.Ascending) (limit : Int) :
    t.recent limit = t.store.recent limit := by
  have sorted : (t.rows.mergeSort byTime).map DatedRow.row = t.store.rows.reverse := by
    rw [ascending.mergeSort_byTime, List.map_reverse]
    rfl
  cases limit with
  | ofNat n => exact congrArg (List.take n) sorted
  | negSucc n => exact sorted

end Ascending

/-- The row shows a save under its id, with what the calls confirmed last for its hash. -/
def Displays (done : List AuditCall) (save : NewRow × Nat) (row : AuditRow) : Prop :=
  AuditStore.Shows row save.2 save.1 (AuditStore.lastUpdate? save.1.hash done)

theorem displays_rows {s : AuditStore} {done : List AuditCall} (reflects : s.Reflects done) :
    List.Forall₂ (Displays done) ((AuditStore.saves done).zipIdx 1) s.rows := by
  apply List.forall₂_iff_get.mpr
  constructor
  · rw [List.length_zipIdx, reflects.length_rows]
  · intro i inside insideRows
    rw [List.length_zipIdx] at inside
    have saved := List.getElem?_eq_getElem inside
    have row := reflects.getElem?_rows i
    rw [List.getElem?_eq_getElem insideRows, saved, Option.map_some] at row
    have shows := reflects.shows saved
    rw [← Option.some.inj row] at shows
    simp only [List.get_eq_getElem, List.getElem_zipIdx, Displays, Nat.add_comm 1 i]
    exact shows

theorem ascending_run (calls : List (Nat × AuditCall))
    (timely : ((run {} calls).rows.map DatedRow.created).Pairwise (· ≤ ·)) :
    (run {} calls).Ascending := by
  have ids := (AuditStore.Reflects.run (calls.map Prod.snd)).tells.ascending
  have untimed : (run {} calls).store = AuditStore.run {} (calls.map Prod.snd) := store_run {} calls
  rw [← untimed, store, List.map_map] at ids
  exact ⟨ids, timely⟩

/-- After any history of timed calls in which no row is inserted at an earlier time than the row
before it: the rows of a uid are those of the successful saves under it, in the order of the saves,
and the recent rows are those of the last saves, or of all if the limit is negative, in the reverse
order. Each row shows its save and the last successful confirmation of its hash. The queries give
what they give where the times are left out. -/
theorem queries_of_run (calls : List (Nat × AuditCall))
    (timely : ((run {} calls).rows.map DatedRow.created).Pairwise (· ≤ ·)) :
    let t := run {} calls
    let s := AuditStore.run {} (calls.map Prod.snd)
    let done := AuditStore.accepted {} (calls.map Prod.snd)
    let saved := (AuditStore.saves done).zipIdx 1
    (∀ uid, t.forUid uid = s.forUid uid ∧
      List.Forall₂ (Displays done) (saved.filter fun save => save.1.uid == uid) (t.forUid uid)) ∧
    (∀ limit, t.recent limit = s.recent limit) ∧
    (∀ n : Nat,
      List.Forall₂ (Displays done) (saved.drop (saved.length - n)).reverse (t.recent n)) ∧
    ∀ limit < 0, List.Forall₂ (Displays done) saved.reverse (t.recent limit) := by
  intro t s done saved
  have ascending : t.Ascending := ascending_run calls timely
  have untimed : t.store = s := store_run {} calls
  have displays : List.Forall₂ (Displays done) saved s.rows :=
    displays_rows (AuditStore.Reflects.run (calls.map Prod.snd))
  have recent (limit : Int) : t.recent limit = s.recent limit :=
    untimed ▸ ascending.recent_eq limit
  have forUid (uid : Uid) : t.forUid uid = s.forUid uid := untimed ▸ ascending.forUid_eq uid
  refine ⟨?_, recent, ?_, ?_⟩
  · intro uid
    refine ⟨forUid uid, ?_⟩
    rw [forUid uid]
    apply List.rel_filter _ displays
    intro save row shows
    change (save.1.uid == uid) = true ↔ (row.uid == uid) = true
    rw [shows.uid]
  · intro n
    rw [recent, s.recent_natCast, displays.length_eq]
    exact List.rel_reverse (List.forall₂_drop (s.rows.length - n) displays)
  · intro limit negative
    rw [recent, s.recent_of_neg negative]
    exact List.rel_reverse displays

end AuditTable

namespace Sample

def sent (uid : Uid) (hash : Hash) : NewRow :=
  ⟨uid, 56, "swap", "swapExactTokensForTokens", .null, hash, ⟨1⟩, none, 4, 150000, 3⟩

def crowded : List (Nat × AuditCall) :=
  [(5, .save (sent "run" ⟨7⟩)), (5, .save (sent "other" ⟨8⟩)), (6, .save (sent "run" ⟨7⟩)),
    (7, .confirm ⟨7⟩ ⟨9, 21000, 4, true⟩), (8, .save (sent "run" ⟨9⟩))]

end Sample

namespace AuditTable

theorem queries_of_run_crowded :
    let t := run {} Sample.crowded
    (t.rows.map DatedRow.created).Pairwise (· ≤ ·) ∧
      (t.forUid "run").map AuditRow.id = [1, 3] ∧
      (t.recent 2).map AuditRow.id = [3, 2] ∧
      (t.recent (-1)).map AuditRow.status = [none, none, some true] := by
  intro t
  have created : t.rows.map DatedRow.created = [5, 5, 8] := by decide +kernel
  have timely : (t.rows.map DatedRow.created).Pairwise (· ≤ ·) := created ▸ by decide
  obtain ⟨forUid, recent, _, _⟩ := queries_of_run Sample.crowded timely
  refine ⟨timely, ?_, ?_, ?_⟩
  · rw [(forUid "run").1]
    decide +kernel
  · rw [recent 2]
    decide +kernel
  · rw [recent (-1)]
    decide +kernel

end AuditTable

end SwapDesk
