import SwapDesk.Proofs.Json.ReadBack
import SwapDesk.Proofs.Send.History

namespace SwapDesk

theorem AuditRow.contextJson_of_render {row : AuditRow} {context : Json}
    (plain : context.Plain Json.nestingLimit) (stored : row.context = context.render) :
    row.contextJson = context := by
  rw [contextJson, stored, Json.parse?_render plain, Option.getD_some]

theorem AuditRow.contextJson_of_written {row later : AuditRow}
    (same : later.written = row.written) : later.contextJson = row.contextJson := by
  have kept : later.written.context = row.written.context := congrArg AuditRow.context same
  exact congrArg (fun text => (Json.parse? text).getD .null) kept

namespace AuditStore

variable {s s' : AuditStore} {row : AuditRow}

/-- One row has the hash, and it shows what `row` was saved with. -/
def Retains (s : AuditStore) (row : AuditRow) : Prop :=
  (s.withHash row.hash).map AuditRow.written = [row.written]

theorem Accepts.retains {call : AuditCall} (accepts : s.Accepts call s')
    (retains : s.Retains row) : s'.Retains row := by
  cases accepts with
  | @save r fit fresh =>
      have known : s.withHash row.hash ≠ [] := by
        intro none
        rw [Retains, none] at retains
        exact nomatch retains
      have other : (rowOf s.nextId r).hash ≠ row.hash := by
        intro same
        exact known (same ▸ fresh)
      rw [Retains, withHash_append, if_neg other, List.append_nil]
      exact retains
  | @confirm hash u fit known =>
      have confirmed := confirm_of_known fit known
      rw [Retains, withHash_map_written, map_written_of_confirm confirmed, ← withHash_map_written]
      exact retains

theorem Retains.run (retains : s.Retains row) (calls : List AuditCall) :
    (s.run calls).Retains row := by
  apply run_induction (P := fun s' _ => s'.Retains row) _ [] retains calls
  intro s' s'' done call held accepts
  exact accepts.retains held

theorem retains_of_save {r : NewRow} (saved : s.save r = .ok (row, s')) : s'.Retains row := by
  obtain ⟨rfl, rfl, fresh⟩ := save_eq_ok saved
  have none : s.withHash (rowOf s.nextId r).hash = [] := fresh
  rw [Retains, withHash_append, none, if_pos rfl]
  rfl

theorem Retains.exists_row (retains : s.Retains row) :
    ∃ later, s.withHash row.hash = [later] ∧ later ∈ s.forUid row.uid ∧
      later.written = row.written := by
  obtain ⟨later, rest, found, written, none⟩ := List.map_eq_cons_iff.mp retains
  rw [List.map_eq_nil_iff.mp none] at found
  have member : later ∈ s.withHash row.hash := found ▸ List.mem_singleton_self later
  have sameUid : later.written.uid = row.written.uid := congrArg AuditRow.uid written
  refine ⟨later, found, ?_, written⟩
  apply List.mem_filter.mpr
  exact ⟨(List.mem_filter.mp member).1, beq_iff_eq.mpr sameUid⟩

/-- A saved row gives its context back, at once and after whatever is done to the store later, and
no other context is stored as the same text. -/
theorem context_reads_back {r : NewRow} (plain : r.context.Plain 127)
    (saved : s.save r = .ok (row, s')) :
    row.contextJson = r.context ∧
    (∀ calls, ∃ later, (s'.run calls).withHash r.hash = [later] ∧
      later ∈ (s'.run calls).forUid r.uid ∧ later.id = row.id ∧
      later.contextJson = r.context) ∧
    ∀ other : Json, other.Plain 127 → other ≠ r.context → other.render ≠ row.context := by
  obtain ⟨entered, _, _⟩ := save_eq_ok saved
  have sameHash : row.hash = r.hash := congrArg AuditRow.hash entered
  have sameUid : row.uid = r.uid := congrArg AuditRow.uid entered
  have stored : row.context = r.context.render := congrArg AuditRow.context entered
  have now := row.contextJson_of_render plain stored
  refine ⟨now, ?_, ?_⟩
  · intro calls
    obtain ⟨later, only, listed, written⟩ := ((retains_of_save saved).run calls).exists_row
    have sameId : later.written.id = row.written.id := congrArg AuditRow.id written
    refine ⟨later, sameHash ▸ only, sameUid ▸ listed, sameId, ?_⟩
    rw [AuditRow.contextJson_of_written written, now]
  · intro other otherPlain different sameText
    have read := Json.parse?_render otherPlain
    rw [sameText, stored, Json.parse?_render plain] at read
    exact different (Option.some.inj read).symm

end AuditStore

namespace Sample

/-- Numbers at both ends of their range, an empty key, and characters that cannot stand in a text
as they are. -/
def thorny : Json :=
  .object [("", .array [.int (-9223372036854775808), .int 18446744073709551615, .null]),
    ("\x00\"\\", .object [("é", .string "\n\x1f𝄞")])]

def annotated : NewRow :=
  ⟨"run", 56, "harvest", "multicall", thorny, ⟨7⟩, ⟨1⟩, none, 4, 150000, 3⟩

theorem plain_thorny : thorny.Plain 127 := by
  refine .object (by decide) ?_
  simp only [List.forall_mem_cons, List.not_mem_nil, false_imp_iff, implies_true, and_true]
  refine ⟨.array ?_, .object (by decide) ?_⟩
  · simp only [List.forall_mem_cons, List.not_mem_nil, false_imp_iff, implies_true, and_true]
    exact ⟨.int (by decide) (by decide), .int (by decide) (by decide), .null⟩
  · rw [List.forall_mem_singleton]
    exact .string _

end Sample

namespace AuditStore

theorem context_reads_back_annotated :
    let row := rowOf 1 Sample.annotated
    Sample.thorny.Plain 127 ∧ AuditStore.save {} Sample.annotated = .ok (row, ⟨[row]⟩) ∧
      row.contextJson = Sample.thorny ∧
      ∃ later, (AuditStore.run ⟨[row]⟩ [.confirm ⟨7⟩ ⟨9, 21000, 4, true⟩]).withHash ⟨7⟩ = [later] ∧
        later.contextJson = Sample.thorny := by
  intro row
  have saved : AuditStore.save {} Sample.annotated = .ok (row, ⟨[row]⟩) := rfl
  obtain ⟨now, later, _⟩ := context_reads_back Sample.plain_thorny saved
  obtain ⟨confirmed, only, _, _, kept⟩ := later [.confirm ⟨7⟩ ⟨9, 21000, 4, true⟩]
  exact ⟨Sample.plain_thorny, saved, now, confirmed, only, kept⟩

end AuditStore

end SwapDesk
