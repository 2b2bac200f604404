import TrackFinder.Text

/-! What follows the first occurrence of a part in a text, and how the other occurrences lie
to it. -/
namespace TrackFinder.Text

variable {α : Type} [DecidableEq α] {lead part text before after rest : List α}

theorem stripLead_eq_some : stripLead lead text = some rest ↔ text = lead ++ rest := by
  induction lead generalizing text with
  | nil => simp [stripLead]
  | cons l lead ih =>
    cases text with
    | nil => simp [stripLead]
    | cons c text =>
      by_cases hc : l = c
      · subst hc
        simp [stripLead, ih]
      · simp [stripLead, hc, Ne.symm hc]

theorem exists_of_afterFirst (h : afterFirst part text = some rest) :
    ∃ before, text = before ++ part ++ rest := by
  induction text with
  | nil =>
    obtain ⟨rfl, rfl⟩ : part = [] ∧ rest = [] := by simpa [afterFirst, eq_comm] using h
    exact ⟨[], rfl⟩
  | cons c text ih =>
    rw [afterFirst] at h
    cases hs : stripLead part (c :: text) with
    | some tail =>
      simp only [hs, Option.some.injEq] at h
      exact ⟨[], by rw [stripLead_eq_some.mp hs, h]; rfl⟩
    | none =>
      simp only [hs] at h
      obtain ⟨before, hbefore⟩ := ih h
      exact ⟨c :: before, by rw [hbefore]; rfl⟩

/-- Where a part occurs, the search for it finds a place, and what follows the place found ends in
what follows any other. -/
theorem exists_afterFirst (h : text = before ++ part ++ after) :
    ∃ rest, afterFirst part text = some rest ∧ after <:+ rest := by
  induction text generalizing before with
  | nil =>
    obtain ⟨-, rfl, rfl⟩ : before = [] ∧ part = [] ∧ after = [] := by simpa using h.symm
    exact ⟨[], rfl, List.suffix_rfl⟩
  | cons c text ih =>
    rw [afterFirst]
    cases hs : stripLead part (c :: text) with
    | some rest =>
      refine ⟨rest, rfl, ?_⟩
      have htext := stripLead_eq_some.mp hs
      have hlong : after.length ≤ rest.length := by
        have hlength := congrArg List.length (h.symm.trans htext)
        simp only [List.length_append] at hlength
        omega
      exact List.suffix_of_suffix_length_le ⟨before ++ part, h.symm⟩ ⟨part, htext.symm⟩ hlong
    | none =>
      cases before with
      | nil =>
        rw [List.nil_append] at h
        rw [stripLead_eq_some.mpr h] at hs
        cases hs
      | cons b before => exact ih (List.cons.inj h).2

end TrackFinder.Text
