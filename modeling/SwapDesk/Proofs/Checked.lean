import Mathlib.Data.List.Forall2

namespace SwapDesk.Checked

variable {ε ε' α β : Type}

theorem bind_eq_ok_iff {result : Except ε α} {next : α → Except ε β} {value : β} :
    (result >>= next) = .ok value ↔ ∃ first, result = .ok first ∧ next first = .ok value := by
  cases result with
  | error fault => simp [bind, Except.bind]
  | ok first => simp [bind, Except.bind]

theorem bind_eq_error_iff {result : Except ε α} {next : α → Except ε β} {fault : ε} :
    (result >>= next) = .error fault ↔
      result = .error fault ∨ ∃ first, result = .ok first ∧ next first = .error fault := by
  cases result with
  | error cause => simp [bind, Except.bind]
  | ok first => simp [bind, Except.bind]

theorem mapError_eq_ok_iff {result : Except ε α} {f : ε → ε'} {value : α} :
    result.mapError f = .ok value ↔ result = .ok value := by
  cases result with
  | error fault => simp [Except.mapError]
  | ok first => simp [Except.mapError]

theorem mapError_eq_error_iff {result : Except ε α} {f : ε → ε'} {fault : ε'} :
    result.mapError f = .error fault ↔ ∃ cause, result = .error cause ∧ f cause = fault := by
  cases result with
  | error cause => simp [Except.mapError]
  | ok first => simp [Except.mapError]

theorem map_eq_ok_iff {result : Except ε α} {f : α → β} {value : β} :
    result.map f = .ok value ↔ ∃ first, result = .ok first ∧ f first = value := by
  cases result with
  | error fault => simp [Except.map]
  | ok first => simp [Except.map]

theorem map_eq_error_iff {result : Except ε α} {f : α → β} {fault : ε} :
    result.map f = .error fault ↔ result = .error fault := by
  cases result with
  | error cause => simp [Except.map]
  | ok first => simp [Except.map]

theorem mapM_eq_ok_iff {f : α → Except ε β} {items : List α} {values : List β} :
    items.mapM f = .ok values ↔
      List.Forall₂ (fun item value => f item = .ok value) items values := by
  induction items generalizing values with
  | nil => simp [pure, Except.pure, eq_comm]
  | cons item items ih =>
      rw [List.mapM_cons, bind_eq_ok_iff, List.forall₂_cons_left_iff]
      constructor
      · rintro ⟨value, first, tail⟩
        obtain ⟨rest, others, whole⟩ := bind_eq_ok_iff.mp tail
        cases whole
        exact ⟨value, rest, first, ih.mp others, rfl⟩
      · rintro ⟨value, rest, first, others, rfl⟩
        exact ⟨value, first, bind_eq_ok_iff.mpr ⟨rest, ih.mpr others, rfl⟩⟩

theorem mapM_eq_error_iff {f : α → Except ε β} {items : List α} {fault : ε} :
    items.mapM f = .error fault ↔
      ∃ before item after, items = before ++ item :: after ∧
        (∀ other ∈ before, ∃ value, f other = .ok value) ∧ f item = .error fault := by
  induction items with
  | nil => simp [pure, Except.pure]
  | cons item items ih =>
      rw [List.mapM_cons, bind_eq_error_iff]
      constructor
      · rintro (failed | ⟨value, first, tail⟩)
        · exact ⟨[], item, items, rfl, nofun, failed⟩
        · rcases bind_eq_error_iff.mp tail with later | ⟨_, _, whole⟩
          · obtain ⟨before, other, after, rfl, passed, failed⟩ := ih.mp later
            refine ⟨item :: before, other, after, rfl, ?_, failed⟩
            exact List.forall_mem_cons.mpr ⟨⟨value, first⟩, passed⟩
          · exact nomatch whole
      · rintro ⟨before, other, after, split, passed, failed⟩
        cases before with
        | nil =>
            cases split
            exact .inl failed
        | cons earlier before =>
            cases split
            obtain ⟨⟨value, first⟩, passed⟩ := List.forall_mem_cons.mp passed
            have later := ih.mpr ⟨before, other, after, rfl, passed, failed⟩
            exact .inr ⟨value, first, bind_eq_error_iff.mpr (.inl later)⟩

theorem exists_mapM_eq_ok {f : α → Except ε β} {items : List α}
    (each : ∀ item ∈ items, ∃ value, f item = .ok value) :
    ∃ values, items.mapM f = .ok values := by
  induction items with
  | nil => exact ⟨[], rfl⟩
  | cons item items ih =>
      obtain ⟨value, first⟩ := each item List.mem_cons_self
      obtain ⟨values, others⟩ := ih fun other member => each other (List.mem_cons_of_mem _ member)
      refine ⟨value :: values, ?_⟩
      rw [List.mapM_cons, first, others]
      rfl

theorem exists_of_mem_left {R : α → β → Prop} {items : List α} {values : List β}
    (related : List.Forall₂ R items values) {item : α} (member : item ∈ items) :
    ∃ value ∈ values, R item value := by
  induction related with
  | nil => exact nomatch member
  | cons here _ ih =>
      rcases List.mem_cons.mp member with rfl | later
      · exact ⟨_, List.mem_cons_self, here⟩
      · obtain ⟨value, found, there⟩ := ih later
        exact ⟨value, List.mem_cons_of_mem _ found, there⟩

theorem exists_of_mem_right {R : α → β → Prop} {items : List α} {values : List β}
    (related : List.Forall₂ R items values) {value : β} (member : value ∈ values) :
    ∃ item ∈ items, R item value :=
  exists_of_mem_left (R := fun value item => R item value) related.flip member

theorem exists_getElem? {R : α → β → Prop} {items : List α} {values : List β}
    (related : List.Forall₂ R items values) {i : Nat} {item : α} (here : items[i]? = some item) :
    ∃ value, values[i]? = some value ∧ R item value := by
  induction related generalizing i with
  | nil => exact nomatch here
  | cons first _ ih =>
      cases i with
      | zero =>
          cases here
          exact ⟨_, rfl, first⟩
      | succ i => exact ih here

end SwapDesk.Checked
