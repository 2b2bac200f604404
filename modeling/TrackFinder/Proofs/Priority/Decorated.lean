import TrackFinder.Proofs.Priority.Overlap

/-! The priority of a name that is made from the media file's own name: the stem with some text in
front of it and some behind it, and another extension. -/
namespace TrackFinder

open Ascii (hasAlphanumeric)

variable {media : FileName} {front back extension : String}

namespace FileName

/-- The stem of a media file with text around it, and an extension. -/
def decorated (media : FileName) (front back extension : String) : FileName :=
  front ++ media.stem ++ back ++ "." ++ extension

/-- The last dot is the one before the extension, wherever else there are dots. -/
theorem stem_decorated (h : '.' ∉ extension.toList) :
    (media.decorated front back extension).stem = front ++ media.stem ++ back := by
  have hcut : Text.cutLast '.' (media.decorated front back extension).toList =
      some ((front ++ media.stem ++ back).toList, extension.toList) :=
    Text.cutLast_eq_some.mpr ⟨by simp [decorated], h⟩
  rw [stem, hcut]
  exact String.ofList_toList

/-- The match key of the media file stands in that of the decorated name, with words around it just
where the decoration has some. -/
theorem key_decorated (h : '.' ∉ extension.toList) :
    ∃ before after, (media.decorated front back extension).key = before ++ media.key ++ after ∧
      (before = "" ↔ ¬ hasAlphanumeric front.toList) ∧
      (hasAlphanumeric after.toList = hasAlphanumeric back.toList) ∧
      (after = "" ↔ ¬ hasAlphanumeric back.toList) := by
  obtain ⟨before, after, hkey, hbefore, hwords, hafter⟩ :=
    simplifyFrom_between front.toList media.stem.toList back.toList
  refine ⟨String.ofList before, String.ofList after, ?_, ?_, ?_, ?_⟩
  · rw [← String.toList_inj, toList_key, stem_decorated h]
    simpa [toList_key] using hkey
  · rw [← hbefore, ← String.toList_eq_nil_iff, String.toList_ofList]
  · rw [← hwords, String.toList_ofList]
  · rw [← hafter, ← String.toList_eq_nil_iff, String.toList_ofList]

end FileName

namespace Priority

/-- The priority of a decorated name beside the media file itself. -/
def ofDecorated (media : FileName) (front back extension : String) : Priority :=
  ofOverlap (media.decorated front back extension).key media.key

/-- Decoration without words is no decoration. Words behind the media name make the match a left
one; words in front of it alone make it a right one, unless the media name stands in them too. A
media name without words matches no name that has some. -/
theorem ofOverlap_decorated (h : '.' ∉ extension.toList) :
    (¬ hasAlphanumeric front.toList → ¬ hasAlphanumeric back.toList →
      ofDecorated media front back extension = matchAll) ∧
    (hasAlphanumeric media.stem.toList → hasAlphanumeric back.toList →
      ofDecorated media front back extension = matchLeft) ∧
    (hasAlphanumeric media.stem.toList → ¬ hasAlphanumeric back.toList →
      hasAlphanumeric front.toList →
        (¬ OccursBeforeEnd media.key (media.decorated front back extension).key →
          ofDecorated media front back extension = matchRight) ∧
        (OccursBeforeEnd media.key (media.decorated front back extension).key →
          ofDecorated media front back extension = matchLeft)) ∧
    (hasAlphanumeric media.stem.toList → ofDecorated media front back extension ≠ .none) ∧
    (¬ hasAlphanumeric media.stem.toList → hasAlphanumeric front.toList ∨
      hasAlphanumeric back.toList → ofDecorated media front back extension = .none) := by
  obtain ⟨before, after, hkey, hbefore, hwords, hafter⟩ :=
    @FileName.key_decorated media front back _ h
  have hmedia : media.key ≠ "" ↔ hasAlphanumeric media.stem.toList := by
    rw [ne_eq, FileName.key_eq_empty, Decidable.not_not]
  have hsame : (media.decorated front back extension).key = media.key ↔
      ¬ hasAlphanumeric front.toList ∧ ¬ hasAlphanumeric back.toList := by
    rw [hkey, between_eq_iff, hbefore, hafter]
  refine ⟨?_, ?_, ?_, ?_, ?_⟩
  · intro hf hb
    exact ofOverlap_eq_matchAll.mpr (hsame.mpr ⟨hf, hb⟩)
  · intro hm hb
    refine ofOverlap_eq_matchLeft.mpr ⟨fun he => (hsame.mp he).2 hb, hmedia.mpr hm, ?_⟩
    exact ⟨before, after, hkey, hwords.trans hb⟩
  · intro hm hb hf
    have hne : (media.decorated front back extension).key ≠ media.key :=
      fun he => (hsame.mp he).1 hf
    rw [← occursBeforeWords_key]
    constructor
    · intro hend
      exact ofOverlap_eq_matchRight.mpr ⟨hne, hmedia.mpr hm, ⟨before, after, hkey⟩, hend⟩
    · intro hend
      exact ofOverlap_eq_matchLeft.mpr ⟨hne, hmedia.mpr hm, hend⟩
  · intro hm hnone
    obtain ⟨-, he | hno⟩ := ofOverlap_eq_none.mp hnone
    · exact hmedia.mpr hm he
    · exact hno ⟨before, after, hkey⟩
  · intro hm hwords
    refine ofOverlap_eq_none.mpr ⟨?_, .inl (FileName.key_eq_empty.mpr hm)⟩
    intro he
    obtain ⟨hf, hb⟩ := hsame.mp he
    exact hwords.elim hf hb

/-- Words on either side, one of them grown together with the media name. -/
theorem ofOverlap_decorated_movie :
    '.' ∉ "srt".toList ∧ ofDecorated "Movie.mkv" "" "2.en" "srt" = matchLeft ∧
      ofDecorated "Movie.mkv" "(Movie) my" "" "srt" = matchLeft ∧
      ofDecorated "Movie.mkv" "[-] " " " "srt" = matchAll ∧
      ofDecorated "...mkv" "a" "" "srt" = .none := by
  have hdot : '.' ∉ "srt".toList := by decide
  have hearly : OccursBeforeEnd (FileName.key "Movie.mkv")
      (FileName.decorated "Movie.mkv" "(Movie) my" "" "srt").key :=
    ⟨"", " mymovie", by decide +kernel⟩
  refine ⟨hdot, ?_, ?_, ?_, ?_⟩
  · exact (ofOverlap_decorated hdot).2.1 (by decide +kernel) (by decide +kernel)
  · exact ((ofOverlap_decorated hdot).2.2.1 (by decide +kernel) (by decide +kernel)
      (by decide +kernel)).2 hearly
  · exact (ofOverlap_decorated hdot).1 (by decide +kernel) (by decide +kernel)
  · exact (ofOverlap_decorated hdot).2.2.2.2 (by decide +kernel) (by decide +kernel)

end Priority

end TrackFinder
