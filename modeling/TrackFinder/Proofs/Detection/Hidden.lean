import TrackFinder.Proofs.Detection.Narrow

/-! Hiding dot-files takes companions away and changes nothing about the others. Names with one stem
are both those of dot-files or neither is, so no stream is left without its index here either. -/
namespace TrackFinder

variable {realPath : Path → Option Path} {reader : Reader} {collator : Collator}
  {request : Request} {media : FileName} {entry : Entry}

/-- Whether the file of a companion is shown where dot-files are not. -/
def Companion.isShown (c : Companion) : Bool := !c.fileName.isHidden

theorem Entry.isSkipped_false (entry : Entry) :
    entry.isSkipped false = (entry.isSkipped true || entry.name.isHidden) := by
  simp [isSkipped, FileName.isHidden]

namespace Request

/-- The same request with dot-files shown or hidden. -/
def showing (shown : Bool) (request : Request) : Request := { request with showHidden := shown }

theorem fits_showing :
    (request.showing false).Fits realPath media entry ↔
      (request.showing true).Fits realPath media entry ∧ entry.name.isHidden = false := by
  have hskip : ¬ entry.isSkipped false ↔ ¬ entry.isSkipped true ∧ entry.name.isHidden = false := by
    rw [Entry.isSkipped_false, Bool.or_eq_true, not_or, Bool.not_eq_true entry.name.isHidden]
  constructor
  · intro hfit
    obtain ⟨hshown, hdot⟩ := hskip.mp hfit.shown
    refine ⟨?_, hdot⟩
    exact ⟨hshown, hfit.isTrack, hfit.isFile, hfit.accepted, hfit.isOther, hfit.isText⟩
  · rintro ⟨hfit, hdot⟩
    exact ⟨hskip.mpr ⟨hfit.shown, hdot⟩, hfit.isTrack, hfit.isFile, hfit.accepted, hfit.isOther,
      hfit.isText⟩

theorem isShown_of_companion? {c : Companion} (hn : '/' ∉ entry.name.toList)
    (h : request.companion? realPath media entry = some c) :
    c.isShown = !entry.name.isHidden := by
  rw [Companion.isShown, (standsFor_of_companion? hn h).fileName]

theorem companion?_showing (hn : '/' ∉ entry.name.toList) :
    (request.showing false).companion? realPath media entry =
      ((request.showing true).companion? realPath media entry).filter Companion.isShown := by
  apply companion?_eq_filter
  · rfl
  · exact fun hfit => (fits_showing.mp hfit).1
  · intro c hc
    have hfit := (companion?_eq_some.mp hc).1
    rw [isShown_of_companion? hn hc, fits_showing, Bool.not_eq_true', and_iff_right hfit]

/-- Companions with one stem are shown alike. -/
theorem isShown_eq_of_sameStem {e : Entry} {c d : Companion}
    (hc : request.companion? realPath media entry = some c)
    (hd : request.companion? realPath media e = some d) (hn : '/' ∉ entry.name.toList)
    (hn' : '/' ∉ e.name.toList) (h : c.sameStem d) : c.isShown = d.isShown := by
  have hsc := standsFor_of_companion? hn hc
  have hsd := standsFor_of_companion? hn' hd
  obtain ⟨x, hx⟩ := hsc.exists_extension
  obtain ⟨y, hy⟩ := hsd.exists_extension
  rw [isShown_of_companion? hn hc, isShown_of_companion? hn' hd, FileName.isHidden_eq hx,
    FileName.isHidden_eq hy, hsc.fold_stem_eq hsd h]

theorem narrows_showing (realPath : Path → Option Path) (request : Request) :
    (request.showing true).Narrows realPath Companion.isShown (request.showing false) where
  media_eq := rfl
  searchPaths_eq := rfl
  isOff := Iff.rfl
  companion?_eq _ _ hn := companion?_showing hn
  ofSameStem media e e' c i hn hn' hc hi hs hshown := by
    rw [isShown_eq_of_sameStem hi hc hn' hn hs]
    exact hshown
  ofBare _ := rfl

end Request

end TrackFinder
