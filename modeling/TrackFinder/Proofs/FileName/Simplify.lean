import TrackFinder.Proofs.FileName

/-! Simplifying a text that stands within another one: its words are found among the words of the
whole, though the first and the last of them may have grown together with what stands around. -/
namespace TrackFinder

variable {cs : List Char} {c : Char} {gap started : Bool}

namespace Ascii

@[simp] theorem hasAlphanumeric_append (a b : List Char) :
    hasAlphanumeric (a ++ b) = (hasAlphanumeric a || hasAlphanumeric b) := List.any_append

theorem hasAlphanumeric_of_suffix {a b : List Char} (h : a <:+ b) (ha : hasAlphanumeric a) :
    hasAlphanumeric b := by
  obtain ⟨front, rfl⟩ := h
  simp [ha]

end Ascii

theorem simplifyFrom_cons (hc : c.isAlphanum) (cs : List Char) :
    simplifyFrom gap started (c :: cs) =
      (if gap && started then [' '] else []) ++ c.toLower :: simplifyFrom false true cs := by
  rw [simplifyFrom, if_pos hc]
  split <;> rfl

theorem simplifyFrom_cons_gap (hc : ¬ c.isAlphanum) (cs : List Char) :
    simplifyFrom gap started (c :: cs) = simplifyFrom true started cs := by
  rw [simplifyFrom, if_neg hc]

theorem hasAlphanumeric_simplifyFrom (gap started : Bool) (cs : List Char) :
    Ascii.hasAlphanumeric (simplifyFrom gap started cs) = Ascii.hasAlphanumeric cs := by
  induction cs generalizing gap started with
  | nil => rfl
  | cons c cs ih =>
    by_cases hc : c.isAlphanum
    · rw [simplifyFrom_cons hc]
      simp [Ascii.hasAlphanumeric, isAlphanum_toLower, hc]
    · rw [simplifyFrom_cons_gap hc, ih]
      simp [Ascii.hasAlphanumeric, hc]

/-- Only a text without words leaves nothing. -/
theorem simplifyFrom_eq_nil :
    simplifyFrom gap started cs = [] ↔ ¬ Ascii.hasAlphanumeric cs := by
  induction cs generalizing gap with
  | nil => simp [simplifyFrom, Ascii.hasAlphanumeric]
  | cons c cs ih =>
    by_cases hc : c.isAlphanum
    · rw [simplifyFrom_cons hc]
      simp [Ascii.hasAlphanumeric, hc]
    · rw [simplifyFrom_cons_gap hc, ih]
      simp [Ascii.hasAlphanumeric, hc]

/-- The words of two texts come one after the other. What has been read of the first is told by a
gap and by whether it has words. -/
theorem simplifyFrom_append (gap started : Bool) (a b : List Char) :
    ∃ gap', simplifyFrom gap started (a ++ b) =
      simplifyFrom gap started a ++ simplifyFrom gap' (started || Ascii.hasAlphanumeric a) b := by
  induction a generalizing gap started with
  | nil => exact ⟨gap, by simp [simplifyFrom, Ascii.hasAlphanumeric]⟩
  | cons c a ih =>
    by_cases hc : c.isAlphanum
    · obtain ⟨gap', h⟩ := ih false true
      refine ⟨gap', ?_⟩
      rw [List.cons_append, simplifyFrom_cons hc, simplifyFrom_cons hc, h]
      simp [Ascii.hasAlphanumeric, hc]
    · obtain ⟨gap', h⟩ := ih true started
      refine ⟨gap', ?_⟩
      rw [List.cons_append, simplifyFrom_cons_gap hc, simplifyFrom_cons_gap hc, h]
      simp [Ascii.hasAlphanumeric, hc]

/-- What stands before the first word leaves no trace. -/
theorem simplifyFrom_fresh (gap : Bool) (cs : List Char) :
    simplifyFrom gap false cs = simplifyFrom false false cs := by
  induction cs generalizing gap with
  | nil => rfl
  | cons c cs ih =>
    by_cases hc : c.isAlphanum
    · rw [simplifyFrom_cons hc, simplifyFrom_cons hc]
      simp
    · rw [simplifyFrom_cons_gap hc, simplifyFrom_cons_gap hc]

/-- Behind other words the same words are left, perhaps with a space in front of them. -/
theorem simplifyFrom_behind (gap : Bool) (cs : List Char) :
    ∃ lead, simplifyFrom gap true cs = lead ++ simplifyFrom false false cs := by
  induction cs generalizing gap with
  | nil => exact ⟨[], rfl⟩
  | cons c cs ih =>
    by_cases hc : c.isAlphanum
    · refine ⟨if gap then [' '] else [], ?_⟩
      rw [simplifyFrom_cons hc, simplifyFrom_cons hc]
      simp
    · rw [simplifyFrom_cons_gap hc, simplifyFrom_cons_gap hc, simplifyFrom_fresh]
      exact ih true

/-- The words of a text within another one are found among the words of the whole. -/
theorem simplifyFrom_between (front text back : List Char) :
    ∃ before after, simplifyFrom false false (front ++ text ++ back) =
        before ++ simplifyFrom false false text ++ after ∧
      (before = [] ↔ ¬ Ascii.hasAlphanumeric front) ∧
      Ascii.hasAlphanumeric after = Ascii.hasAlphanumeric back ∧
      (after = [] ↔ ¬ Ascii.hasAlphanumeric back) := by
  obtain ⟨gap, hback⟩ := simplifyFrom_append false false (front ++ text) back
  obtain ⟨gap', hfront⟩ := simplifyFrom_append false false front text
  rw [Bool.false_or] at hback hfront
  have hafter := hasAlphanumeric_simplifyFrom gap (Ascii.hasAlphanumeric (front ++ text)) back
  rw [hback, hfront]
  by_cases hf : Ascii.hasAlphanumeric front
  · obtain ⟨lead, hlead⟩ := simplifyFrom_behind gap' text
    refine ⟨simplifyFrom false false front ++ lead, _, ?_, ?_, hafter, simplifyFrom_eq_nil⟩
    · simp only [hf, hlead, List.append_assoc]
    · simp [simplifyFrom_eq_nil, hf]
  · refine ⟨simplifyFrom false false front, _, ?_, simplifyFrom_eq_nil, hafter, simplifyFrom_eq_nil⟩
    rw [Bool.not_eq_true] at hf
    rw [hf, simplifyFrom_fresh gap']

/-- Words end in a letter or digit, and so does what is left of a text. -/
theorem isAlphanum_of_mem_getLast? (h : c ∈ (simplifyFrom gap started cs).getLast?) :
    c.isAlphanum := by
  induction cs generalizing gap started with
  | nil => cases h
  | cons d cs ih =>
    by_cases hd : d.isAlphanum
    · rw [simplifyFrom_cons hd, List.getLast?_append, List.getLast?_cons] at h
      cases hl : (simplifyFrom false true cs).getLast? with
      | some e =>
        have he : e = c := by simpa [hl] using h
        exact ih (he ▸ hl)
      | none =>
        have he : d.toLower = c := by simpa [hl] using h
        rw [← he, isAlphanum_toLower]
        exact hd
    · rw [simplifyFrom_cons_gap hd] at h
      exact ih h

theorem hasAlphanumeric_of_suffix_simplifyFrom {after : List Char}
    (h : after <:+ simplifyFrom gap started cs) (ha : after ≠ []) :
    Ascii.hasAlphanumeric after := by
  obtain ⟨front, h⟩ := h
  have hlast : after.getLast ha ∈ (simplifyFrom gap started cs).getLast? := by
    rw [← h, List.getLast?_append, List.getLast?_eq_some_getLast ha]
    rfl
  exact List.any_eq_true.mpr ⟨_, List.getLast_mem ha, isAlphanum_of_mem_getLast? hlast⟩

theorem toList_simplify (text : String) :
    (simplify text).toList = simplifyFrom false false text.toList := String.toList_ofList

namespace FileName

variable {name : FileName} {before part after : String}

theorem toList_key (name : FileName) :
    name.key.toList = simplifyFrom false false name.stem.toList := toList_simplify name.stem

theorem key_eq_empty : name.key = "" ↔ ¬ Ascii.hasAlphanumeric name.stem.toList := by
  rw [← String.toList_eq_nil_iff, toList_key, simplifyFrom_eq_nil]

/-- Whatever ends a match key has letters or digits, unless it is empty. -/
theorem hasAlphanumeric_of_key_eq (h : name.key = before ++ part ++ after) (ha : after ≠ "") :
    Ascii.hasAlphanumeric after.toList := by
  have hsuffix : after.toList <:+ simplifyFrom false false name.stem.toList := by
    rw [← toList_key, h, String.toList_append]
    exact List.suffix_append ..
  exact hasAlphanumeric_of_suffix_simplifyFrom hsuffix fun he => ha (String.toList_eq_nil_iff.mp he)

end FileName

end TrackFinder
