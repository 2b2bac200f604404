import TrackFinder.Proofs.Detection.Narrow

/-! A higher threshold takes companions away and changes nothing about the others. A subtitle stream
and its index have one priority, so no stream is left without the index that it gave way to. -/
namespace TrackFinder

variable {realPath : Path → Option Path} {reader : Reader} {collator : Collator}
  {request : Request} {media : FileName} {entry : Entry}

namespace Companion

/-- Whether the priority of a companion reaches a level. -/
def reaches (level : Int) (c : Companion) : Bool := level ≤ c.priority.rank

theorem reaches_rank {high : Priority} {c : Companion} :
    c.reaches high.rank ↔ high.rank ≤ c.priority.rank := by
  simp [reaches]

end Companion

namespace Threshold

theorem accepts_atLeast {least p : Priority} :
    (atLeast least).accepts p ↔ p ≠ .none ∧ least.rank ≤ p.rank := by
  simp [accepts]

/-- The levels from 1 to 4 are the ranks of the priorities that a threshold may ask for. -/
theorem exists_ofLevel {level : Int} (hlow : 1 ≤ level) (hhigh : level ≤ 4) :
    ∃ p : Priority, ofLevel level = .ok (atLeast p) ∧ p.rank = level := by
  have h : level = 1 ∨ level = 2 ∨ level = 3 ∨ level = 4 := by omega
  rcases h with rfl | rfl | rfl | rfl
  · exact ⟨.matchNone, rfl, rfl⟩
  · exact ⟨.matchRight, rfl, rfl⟩
  · exact ⟨.matchLeft, rfl, rfl⟩
  · exact ⟨.matchAll, rfl, rfl⟩

theorem atLeast_ne_disabled (p : Priority) : atLeast p ≠ disabled := by
  intro h
  cases h

end Threshold

/-- The same request with another threshold. -/
def Request.asking (threshold : Threshold) (request : Request) : Request :=
  { request with threshold := threshold }

namespace Request

variable {low high : Priority}

theorem fits_asking (h : low.rank ≤ high.rank) :
    (request.asking (.atLeast high)).Fits realPath media entry ↔
      (request.asking (.atLeast low)).Fits realPath media entry ∧
        high.rank ≤ (request.priorityOf media entry).rank := by
  constructor
  · intro hfit
    obtain ⟨hne, hrank⟩ := Threshold.accepts_atLeast.mp hfit.accepted
    refine ⟨?_, hrank⟩
    exact ⟨hfit.shown, hfit.isTrack, hfit.isFile,
      Threshold.accepts_atLeast.mpr ⟨hne, Nat.le_trans h hrank⟩, hfit.isOther, hfit.isText⟩
  · rintro ⟨hfit, hrank⟩
    obtain ⟨hne, -⟩ := Threshold.accepts_atLeast.mp hfit.accepted
    exact ⟨hfit.shown, hfit.isTrack, hfit.isFile,
      Threshold.accepts_atLeast.mpr ⟨hne, hrank⟩, hfit.isOther, hfit.isText⟩

theorem companion?_asking (h : low.rank ≤ high.rank) :
    (request.asking (.atLeast high)).companion? realPath media entry =
      ((request.asking (.atLeast low)).companion? realPath media entry).filter
        (Companion.reaches high.rank) := by
  apply companion?_eq_filter
  · rfl
  · exact fun hfit => ((fits_asking h).mp hfit).1
  · intro c hc
    obtain ⟨hfit, path, kind, -, -, rfl⟩ := companion?_eq_some.mp hc
    rw [Companion.reaches_rank, Companion.priority_found, fits_asking h, and_iff_right hfit]
    rfl

theorem narrows_asking (realPath : Path → Option Path) (request : Request)
    (h : low.rank ≤ high.rank) :
    (request.asking (.atLeast low)).Narrows realPath (Companion.reaches high.rank)
      (request.asking (.atLeast high)) where
  media_eq := rfl
  searchPaths_eq := rfl
  isOff := iff_of_false (Threshold.atLeast_ne_disabled high) (Threshold.atLeast_ne_disabled low)
  companion?_eq _ _ _ := companion?_asking h
  ofSameStem media e e' c i hn hn' hc hi hs hreaches := by
    rw [Companion.reaches, priority_eq_of_sameStem hi hc hn' hn hs]
    exact hreaches
  ofBare _ := rfl

end Request

/-- The detection without the companions below a level. -/
def Detection.above (level : Int) (detection : Detection) : Detection :=
  detection.only (Companion.reaches level)

theorem Request.detect_asking [Std.TransCmp collator] {low high : Priority}
    (h : low.rank ≤ high.rank) (hn : reader.HasStepNames) :
    ((request.asking (.atLeast high)).detect realPath reader collator).value =
      ((request.asking (.atLeast low)).detect realPath reader collator).value.map
        (Detection.above high.rank) :=
  (narrows_asking realPath request h).detect_eq hn

end TrackFinder
