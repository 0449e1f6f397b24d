namespace SwapDesk.Text

/-- The pieces between separators; there is one more of them than there are separators. -/
def pieces (separates : Char → Bool) : List Char → List (List Char)
  | [] => [[]]
  | c :: cs =>
      if separates c then [] :: pieces separates cs
      else match pieces separates cs with
        | [] => [[c]]
        | p :: ps => (c :: p) :: ps

/-- The maximal runs of characters that separate nothing. -/
def runs (separates : Char → Bool) (cs : List Char) : List (List Char) :=
  (pieces separates cs).filter fun p => !p.isEmpty

theorem pieces_ne_nil (separates : Char → Bool) (cs : List Char) : pieces separates cs ≠ [] := by
  cases cs with
  | nil => simp [pieces]
  | cons c cs =>
      unfold pieces
      split
      · simp
      · split <;> simp

theorem pieces_cons_of_separates {separates : Char → Bool} {c : Char} (h : separates c = true)
    (cs : List Char) : pieces separates (c :: cs) = [] :: pieces separates cs := by
  simp [pieces, h]

theorem pieces_append_of_separates {separates : Char → Bool} {c : Char}
    (h : separates c = true) (xs ys : List Char) :
    pieces separates (xs ++ c :: ys) = pieces separates xs ++ pieces separates ys := by
  induction xs with
  | nil => exact pieces_cons_of_separates h ys
  | cons x xs ih =>
      obtain ⟨p, ps, hp⟩ := List.exists_cons_of_ne_nil (pieces_ne_nil separates xs)
      by_cases hx : separates x = true
      · simp [pieces, hx, ih]
      · simp [pieces, hx, ih, hp]

theorem pieces_eq_singleton {separates : Char → Bool} {cs : List Char}
    (h : ∀ c ∈ cs, separates c = false) : pieces separates cs = [cs] := by
  induction cs with
  | nil => rfl
  | cons c cs ih =>
      have hc := h c List.mem_cons_self
      have hcs := ih fun d hd => h d (List.mem_cons_of_mem c hd)
      simp [pieces, hc, hcs]

theorem separates_of_mem_pieces {separates : Char → Bool} {cs p : List Char}
    (hp : p ∈ pieces separates cs) : ∀ c ∈ p, separates c = false := by
  induction cs generalizing p with
  | nil =>
      have := List.mem_singleton.mp hp
      simp [this]
  | cons x xs ih =>
      obtain ⟨q, qs, hq⟩ := List.exists_cons_of_ne_nil (pieces_ne_nil separates xs)
      by_cases hx : separates x = true
      · rw [pieces_cons_of_separates hx] at hp
        rcases List.mem_cons.mp hp with rfl | hp
        · simp
        · exact ih hp
      · simp only [pieces, hx, hq, Bool.false_eq_true, if_false] at hp
        rcases List.mem_cons.mp hp with rfl | hp
        · intro c hc
          rcases List.mem_cons.mp hc with rfl | hc
          · exact Bool.eq_false_iff.mpr hx
          · exact ih (hq ▸ List.mem_cons_self) c hc
        · exact ih (hq ▸ List.mem_cons_of_mem q hp)

theorem runs_append_of_separates {separates : Char → Bool} {c : Char} (h : separates c = true)
    (xs ys : List Char) :
    runs separates (xs ++ c :: ys) = runs separates xs ++ runs separates ys := by
  rw [runs, pieces_append_of_separates h, List.filter_append]
  rfl

theorem runs_cons_of_separates {separates : Char → Bool} {c : Char} (h : separates c = true)
    (cs : List Char) : runs separates (c :: cs) = runs separates cs :=
  runs_append_of_separates h [] cs

def join (separator : Char) : List (List Char) → List Char
  | [] => []
  | [p] => p
  | p :: q :: ps => p ++ separator :: join separator (q :: ps)

def isSlash (c : Char) : Bool := c == '/'

end SwapDesk.Text
