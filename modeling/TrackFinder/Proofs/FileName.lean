import TrackFinder.TrackKind
import TrackFinder.Proofs.Text.Cut

/-! Names up to the case of their letters, and what a path that ends in a name keeps of it. -/
namespace TrackFinder

variable {a b : List Char} {name : FileName} {extension : String}

theorem toNat_toLower (c : Char) :
    c.toLower.toNat = if 65 ≤ c.toNat ∧ c.toNat ≤ 90 then c.toNat + 32 else c.toNat := by
  by_cases h : 65 ≤ c.toNat ∧ c.toNat ≤ 90
  · have hv : c.val ≥ 'A'.val ∧ c.val ≤ 'Z'.val := by
      simpa [UInt32.le_iff_toNat_le] using h
    delta Char.toLower
    rw [if_pos h, dif_pos hv, Char.toNat, UInt32.toNat_add]
    simp
    omega
  · have hv : ¬ (c.val ≥ 'A'.val ∧ c.val ≤ 'Z'.val) := by
      simpa [UInt32.le_iff_toNat_le] using h
    delta Char.toLower
    rw [if_neg h, dif_neg hv]

theorem isAlphanum_iff (c : Char) :
    c.isAlphanum ↔ (65 ≤ c.toNat ∧ c.toNat ≤ 90) ∨ (97 ≤ c.toNat ∧ c.toNat ≤ 122) ∨
      (48 ≤ c.toNat ∧ c.toNat ≤ 57) := by
  delta Char.isAlphanum Char.isAlpha Char.isUpper Char.isLower Char.isDigit
  simp [UInt32.le_iff_toNat_le, or_assoc]

theorem isAlphanum_toLower (c : Char) : c.toLower.isAlphanum = c.isAlphanum := by
  rw [Bool.eq_iff_iff, isAlphanum_iff, isAlphanum_iff, toNat_toLower]
  split <;> omega

/-- Only letters are changed, and only into letters. -/
theorem toLower_eq_iff {c d : Char} (hd : d.isAlphanum = false) : c.toLower = d ↔ c = d := by
  rw [← Bool.not_eq_true, isAlphanum_iff] at hd
  rw [← Char.toNat_inj, ← Char.toNat_inj, toNat_toLower]
  split <;> omega

namespace Ascii

theorem same_iff : same a b ↔ fold a = fold b := beq_iff_eq

theorem fold_append (a b : List Char) : fold (a ++ b) = fold a ++ fold b := List.map_append

theorem slash_mem_fold : '/' ∈ fold a ↔ '/' ∈ a := by
  have hslash : ∀ c : Char, c.toLower = '/' ↔ c = '/' := fun c => toLower_eq_iff (by decide)
  simp [fold, hslash]

end Ascii

/-- The words of a text do not depend on the case of its letters. -/
theorem simplifyFrom_congr (gap started : Bool) (h : Ascii.fold a = Ascii.fold b) :
    simplifyFrom gap started a = simplifyFrom gap started b := by
  induction a generalizing gap started b with
  | nil =>
    rw [List.map_eq_nil_iff.mp h.symm]
  | cons c a ih =>
    obtain ⟨d, b, rfl, hd, hb⟩ := List.map_eq_cons_iff.mp h.symm
    have hcd : d.isAlphanum = c.isAlphanum := by
      rw [← isAlphanum_toLower d, ← isAlphanum_toLower c, hd]
    simp only [simplifyFrom, hcd, hd, ih _ _ hb.symm]

namespace FileName

theorem extension?_eq_some :
    name.extension? = some extension ↔
      ∃ before, Text.cutLast '.' name.toList = some (before, extension.toList) ∧
        extension ≠ "" := by
  cases hc : Text.cutLast '.' name.toList with
  | none => simp [extension?, hc]
  | some cut =>
    obtain ⟨before, after⟩ := cut
    by_cases ha : after = []
    · subst ha
      simp only [extension?, hc, if_true, Option.some.injEq, Prod.mk.injEq]
      constructor
      · intro h
        cases h
      · rintro ⟨-, ⟨-, he⟩, hne⟩
        exact absurd (String.toList_eq_nil_iff.mp he.symm) hne
    · simp only [extension?, hc, if_neg ha, Option.some.injEq, Prod.mk.injEq]
      constructor
      · rintro rfl
        exact ⟨before, ⟨rfl, String.toList_ofList.symm⟩, by simpa using ha⟩
      · rintro ⟨-, ⟨rfl, rfl⟩, -⟩
        exact String.ofList_toList

/-- Names whose stems differ in case alone have the same key. -/
theorem key_congr {a b : FileName} (h : Ascii.fold a.stem.toList = Ascii.fold b.stem.toList) :
    a.key = b.key := by
  rw [key, key, simplify, simplify, simplifyFrom_congr false false h]

/-- Whether a name is that of a dot-file. -/
def isHidden (name : FileName) : Bool := name.toList.head? == some '.'

/-- The stem tells a dot-file: it starts with the dot, or the dot that ends it comes first. -/
theorem isHidden_eq (h : name.extension? = some extension) :
    name.isHidden = (Ascii.fold name.stem.toList).head?.all (· == '.') := by
  obtain ⟨before, hcut, -⟩ := extension?_eq_some.mp h
  have hname : name.toList = before ++ '.' :: extension.toList := (Text.cutLast_eq_some.mp hcut).1
  have hdot : ∀ c : Char, (c.toLower == '.') = (c == '.') := by
    intro c
    rw [Bool.eq_iff_iff, beq_iff_eq, beq_iff_eq]
    exact toLower_eq_iff (by decide)
  rw [isHidden, stem, hcut, hname, String.toList_ofList]
  cases before with
  | nil => rfl
  | cons c before => simp [Ascii.fold, hdot]

/-- What stands in front of a name with an extension leaves it the extension. -/
theorem extension?_append (h : name.extension? = some extension) (front : String) :
    extension? (front ++ name) = some extension := by
  obtain ⟨before, hcut, hne⟩ := extension?_eq_some.mp h
  refine extension?_eq_some.mpr ⟨front.toList ++ before, ?_, hne⟩
  rw [String.toList_append]
  exact Text.cutLast_append hcut front.toList

end FileName

namespace TrackKind

theorem exists_extension (h : (ofFileName? name).isSome) : ∃ e, name.extension? = some e := by
  cases he : name.extension? with
  | none => simp [ofFileName?, FileName.hasExtensionIn, he, all] at h
  | some e => exact ⟨e, rfl⟩

theorem ofFileName?_append (h : (ofFileName? name).isSome) (front : String) :
    ofFileName? (front ++ name) = ofFileName? name := by
  obtain ⟨e, he⟩ := exists_extension h
  simp only [ofFileName?, FileName.hasExtensionIn, FileName.extension?_append he, he]

end TrackKind

end TrackFinder
