import TrackFinder.Priority
import TrackFinder.Proofs.FileName.Simplify
import TrackFinder.Proofs.Text.Occurrence

/-! The priority of a name is told by all places where the media name occurs in it, and not by the
one that is found first. -/
namespace TrackFinder.Priority

variable {name media before after : String} {rest : List Char}

/-- The media name stands somewhere in the name. -/
def Occurs (media name : String) : Prop := ∃ before after, name = before ++ media ++ after

/-- The media name stands somewhere in the name with letters or digits somewhere after it. -/
def OccursBeforeWords (media name : String) : Prop :=
  ∃ before after, name = before ++ media ++ after ∧ Ascii.hasAlphanumeric after.toList

/-- The media name stands somewhere in the name before its end. -/
def OccursBeforeEnd (media name : String) : Prop :=
  ∃ before after, name = before ++ media ++ after ∧ after ≠ ""

theorem OccursBeforeWords.occurs (h : OccursBeforeWords media name) : Occurs media name := by
  obtain ⟨before, after, hname, -⟩ := h
  exact ⟨before, after, hname⟩

/-- Only an occurrence with text around it is less than the whole. -/
theorem between_eq_iff : before ++ media ++ after = media ↔ before = "" ∧ after = "" := by
  constructor
  · intro h
    have hlength := congrArg String.length h
    simp only [String.length_append] at hlength
    exact ⟨String.length_eq_zero_iff.mp (by omega), String.length_eq_zero_iff.mp (by omega)⟩
  · rintro ⟨rfl, rfl⟩
    rw [String.empty_append, String.append_empty]

theorem exists_of_search (h : Text.afterFirst media.toList name.toList = some rest) :
    ∃ before, name = before ++ media ++ String.ofList rest := by
  obtain ⟨before, hbefore⟩ := Text.exists_of_afterFirst h
  exact ⟨String.ofList before, String.toList_inj.mp (by simpa using hbefore)⟩

theorem exists_search (h : name = before ++ media ++ after) :
    ∃ rest, Text.afterFirst media.toList name.toList = some rest ∧ after.toList <:+ rest :=
  Text.exists_afterFirst (by rw [h, String.toList_append, String.toList_append])

/-- The search finds the media name wherever it stands. -/
theorem search_eq_none (h : Text.afterFirst media.toList name.toList = .none) :
    ¬ Occurs media name := by
  rintro ⟨before, after, hname⟩
  obtain ⟨rest, hrest, -⟩ := exists_search hname
  rw [h] at hrest
  cases hrest

/-- What follows the first place ends in what follows any other, so it has words if that has. -/
theorem search_eq_some (h : Text.afterFirst media.toList name.toList = some rest) :
    Occurs media name ∧ (OccursBeforeWords media name ↔ Ascii.hasAlphanumeric rest) := by
  obtain ⟨before, hname⟩ := exists_of_search h
  refine ⟨⟨before, _, hname⟩, ?_, ?_⟩
  · rintro ⟨before', after, hname', hafter⟩
    obtain ⟨rest', hrest', hsuffix⟩ := exists_search hname'
    obtain rfl : rest = rest' := Option.some.inj (h.symm.trans hrest')
    exact Ascii.hasAlphanumeric_of_suffix hsuffix hafter
  · intro hrest
    exact ⟨before, _, hname, by rwa [String.toList_ofList]⟩

/-- What the priority of a name is, and when. -/
theorem ofOverlap_cases (name media : String) :
    (ofOverlap name media = matchAll ∧ name = media) ∨
    (ofOverlap name media = none ∧ name ≠ media ∧ (media = "" ∨ ¬ Occurs media name)) ∨
    (ofOverlap name media = matchLeft ∧ name ≠ media ∧ media ≠ "" ∧
      OccursBeforeWords media name) ∨
    (ofOverlap name media = matchRight ∧ name ≠ media ∧ media ≠ "" ∧ Occurs media name ∧
      ¬ OccursBeforeWords media name) := by
  unfold ofOverlap
  by_cases hname : name = media
  · exact .inl ⟨if_pos hname, hname⟩
  rw [if_neg hname]
  by_cases hmedia : media = ""
  · exact .inr (.inl ⟨if_pos (String.toList_eq_nil_iff.mpr hmedia), hname, .inl hmedia⟩)
  rw [if_neg (fun h => hmedia (String.toList_eq_nil_iff.mp h))]
  cases hs : Text.afterFirst media.toList name.toList with
  | none => exact .inr (.inl ⟨rfl, hname, .inr (search_eq_none hs)⟩)
  | some rest =>
    obtain ⟨hoccurs, hwords⟩ := search_eq_some hs
    by_cases hrest : Ascii.hasAlphanumeric rest
    · exact .inr (.inr (.inl ⟨if_pos hrest, hname, hmedia, hwords.mpr hrest⟩))
    · exact .inr (.inr (.inr ⟨if_neg hrest, hname, hmedia, hoccurs, mt hwords.mp hrest⟩))

theorem ofOverlap_eq_matchAll : ofOverlap name media = matchAll ↔ name = media := by
  rcases ofOverlap_cases name media with h | h | h | h <;> grind

theorem ofOverlap_eq_none :
    ofOverlap name media = none ↔ name ≠ media ∧ (media = "" ∨ ¬ Occurs media name) := by
  rcases ofOverlap_cases name media with h | h | h | h <;> grind [OccursBeforeWords.occurs]

theorem ofOverlap_eq_matchLeft :
    ofOverlap name media = matchLeft ↔
      name ≠ media ∧ media ≠ "" ∧ OccursBeforeWords media name := by
  rcases ofOverlap_cases name media with h | h | h | h <;> grind [OccursBeforeWords.occurs]

theorem ofOverlap_eq_matchRight :
    ofOverlap name media = matchRight ↔
      name ≠ media ∧ media ≠ "" ∧ Occurs media name ∧ ¬ OccursBeforeWords media name := by
  rcases ofOverlap_cases name media with h | h | h | h <;> grind

/-- A match key ends in a letter or digit, so there are words in whatever follows within it. -/
theorem occursBeforeWords_key {file : FileName} :
    OccursBeforeWords media file.key ↔ OccursBeforeEnd media file.key := by
  constructor
  · rintro ⟨before, after, h, hwords⟩
    refine ⟨before, after, h, ?_⟩
    rintro rfl
    cases hwords
  · rintro ⟨before, after, h, hafter⟩
    exact ⟨before, after, h, FileName.hasAlphanumeric_of_key_eq h hafter⟩

theorem ofOverlap_key_eq_matchRight {file : FileName} :
    ofOverlap file.key media = matchRight ↔
      media ≠ "" ∧ (∃ before, before ≠ "" ∧ file.key = before ++ media) ∧
        ¬ OccursBeforeEnd media file.key := by
  rw [ofOverlap_eq_matchRight, occursBeforeWords_key]
  constructor
  · rintro ⟨hname, hmedia, ⟨before, after, h⟩, hend⟩
    have hafter : after = "" := Classical.byContradiction fun ha => hend ⟨before, after, h, ha⟩
    subst hafter
    refine ⟨hmedia, ⟨before, ?_, by rw [h, String.append_empty]⟩, hend⟩
    rintro rfl
    exact hname (h.trans (between_eq_iff.mpr ⟨rfl, rfl⟩))
  · rintro ⟨hmedia, ⟨before, hbefore, h⟩, hend⟩
    have hkey : file.key = before ++ media ++ "" := by rw [h, String.append_empty]
    refine ⟨?_, hmedia, ⟨before, "", hkey⟩, hend⟩
    intro hname
    exact hbefore (between_eq_iff.mp (hkey.symm.trans hname)).1

/-- The priority of a name by the places where the media name stands in it. A match key is matched
on the right by those that end it and stand nowhere else in it. -/
theorem ofOverlap_by_occurrence (name media : String) (file : FileName) :
    (ofOverlap name media = matchAll ↔ name = media) ∧
    (ofOverlap name media = .none ↔ name ≠ media ∧ (media = "" ∨ ¬ Occurs media name)) ∧
    (ofOverlap name media = matchLeft ↔
      name ≠ media ∧ media ≠ "" ∧ OccursBeforeWords media name) ∧
    (ofOverlap name media = matchRight ↔
      name ≠ media ∧ media ≠ "" ∧ Occurs media name ∧ ¬ OccursBeforeWords media name) ∧
    (ofOverlap file.key media = matchRight ↔
      media ≠ "" ∧ (∃ before, before ≠ "" ∧ file.key = before ++ media) ∧
        ¬ OccursBeforeEnd media file.key) :=
  ⟨ofOverlap_eq_matchAll, ofOverlap_eq_none, ofOverlap_eq_matchLeft, ofOverlap_eq_matchRight,
    ofOverlap_key_eq_matchRight⟩

end TrackFinder.Priority
