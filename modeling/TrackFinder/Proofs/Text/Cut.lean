import TrackFinder.Text

/-! Where a list is cut: at each of its separators, or at the last one. -/
namespace TrackFinder.Text

variable {α : Type} {xs : List α}

/-- No separator is left in the pieces. -/
theorem not_of_mem_splitOnP {p : α → Bool} {piece : List α} (h : piece ∈ xs.splitOnP p) :
    ∀ x ∈ piece, ¬ p x := by
  induction xs generalizing piece with
  | nil =>
    rw [List.splitOnP_nil, List.mem_singleton] at h
    simp [h]
  | cons x xs ih =>
    obtain ⟨first, rest, hpieces⟩ := List.exists_cons_of_ne_nil (List.splitOnP_ne_nil p xs)
    rw [List.splitOnP_cons_eq_if_modifyHead] at h
    rw [hpieces] at h ih
    split at h
    · rcases List.mem_cons.mp h with rfl | h
      · simp
      · exact ih h
    · rename_i hx
      rcases List.mem_cons.mp h with rfl | h
      · exact List.forall_mem_cons.mpr ⟨hx, ih (List.mem_cons_self ..)⟩
      · exact ih (List.mem_cons_of_mem _ h)

variable [DecidableEq α] {separator : α} {before after : List α}

theorem cutLast_eq_none : cutLast separator xs = none ↔ separator ∉ xs := by
  induction xs with
  | nil => simp [cutLast]
  | cons c xs ih =>
    cases h : cutLast separator xs with
    | some cut =>
      have hmem : separator ∈ xs := Classical.byContradiction fun hn => by simp [ih.mpr hn] at h
      simp [cutLast, h, hmem]
    | none => by_cases hc : c = separator <;> simp [cutLast, h, hc, ih.mp h, Ne.symm]

theorem cutLast_eq_some :
    cutLast separator xs = some (before, after) ↔
      xs = before ++ separator :: after ∧ separator ∉ after := by
  constructor
  · intro h
    induction xs generalizing before with
    | nil => simp [cutLast] at h
    | cons c xs ih =>
      rw [cutLast] at h
      cases hx : cutLast separator xs with
      | some cut =>
        simp only [hx, Option.some.injEq, Prod.mk.injEq] at h
        obtain ⟨rfl, rfl⟩ := h
        obtain ⟨hxs, hno⟩ := ih hx
        exact ⟨by rw [hxs]; rfl, hno⟩
      | none =>
        by_cases hc : c = separator
        · simp only [hx, if_pos hc, Option.some.injEq, Prod.mk.injEq] at h
          obtain ⟨rfl, rfl⟩ := h
          exact ⟨by rw [hc]; rfl, cutLast_eq_none.mp hx⟩
        · simp [hx, hc] at h
  · rintro ⟨rfl, h⟩
    induction before with
    | nil => simp [cutLast, cutLast_eq_none.mpr h]
    | cons c before ih => simp [cutLast, ih]

/-- What stands in front of a list moves the cut, if there is one, and does not change it. -/
theorem cutLast_append (h : cutLast separator xs = some (before, after)) (front : List α) :
    cutLast separator (front ++ xs) = some (front ++ before, after) := by
  obtain ⟨rfl, hno⟩ := cutLast_eq_some.mp h
  exact cutLast_eq_some.mpr ⟨by simp, hno⟩

/-- What follows the last separator; the whole list if there is none. -/
def afterLast (separator : α) (xs : List α) : List α :=
  match cutLast separator xs with
  | some (_, after) => after
  | none => xs

theorem afterLast_of_not_mem (h : separator ∉ xs) : afterLast separator xs = xs := by
  rw [afterLast, cutLast_eq_none.mpr h]

theorem afterLast_append (front : List α) (h : separator ∉ after) :
    afterLast separator (front ++ separator :: after) = after := by
  rw [afterLast, cutLast_eq_some.mpr ⟨rfl, h⟩]

end TrackFinder.Text
