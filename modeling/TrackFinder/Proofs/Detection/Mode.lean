import TrackFinder.Detection
import TrackFinder.Proofs.Companion.Stem

/-! Above the lowest level of a threshold a search goes the same way in either mode. The modes
differ in where an unrelated file is taken to lie, and such a file reaches no higher level wherever
it lies. -/
namespace TrackFinder

variable {realPath : Path → Option Path} {request : Request} {least : Priority} {media : FileName}

/-- The priority of an entry is the same at all locations, or it suffices at none. -/
theorem Threshold.accepts_within (h : Priority.matchRight.rank ≤ least.rank) (p : Priority)
    (x y : Location) :
    p.within x = p.within y ∨
      ¬ (atLeast least).accepts (p.within x) ∧ ¬ (atLeast least).accepts (p.within y) := by
  cases p with
  | none =>
    have hlow : ∀ l, ¬ (atLeast least).accepts (Priority.none.within l) := by
      intro l
      cases l with
      | extra => exact Bool.eq_false_iff.mp (accepts_none _)
      | primary =>
        have hrank : ¬ least.rank ≤ Priority.matchNone.rank := by
          simp only [Priority.rank] at h ⊢
          omega
        simp [Priority.within, accepts, hrank]
    exact Or.inr ⟨hlow x, hlow y⟩
  | _ => exact Or.inl rfl

namespace Request

theorem judge_mode (ht : request.threshold = .atLeast least)
    (h : Priority.matchRight.rank ≤ least.rank) (mode : Mode) (key : String) (entry : Entry) :
    { request with mode := mode }.judge key entry = request.judge key entry := by
  have hlies := Threshold.accepts_within h (Priority.ofOverlap entry.name.key key)
    (mode.locate entry.location) (request.mode.locate entry.location)
  unfold judge Priority.ofEntry
  rcases hlies with hsame | ⟨hx, hy⟩
  · simp only [hsame]
  · simp only [ht, hx, hy, Bool.false_and, Bool.false_eq_true, if_false]

theorem consider_mode (ht : request.threshold = .atLeast least)
    (h : Priority.matchRight.rank ≤ least.rank) (mode : Mode) (found : List Companion)
    (entry : Entry) :
    { request with mode := mode }.consider realPath media found entry =
      request.consider realPath media found entry := by
  unfold consider
  rw [judge_mode ht h]

theorem gather_mode (ht : request.threshold = .atLeast least)
    (h : Priority.matchRight.rank ≤ least.rank) (mode : Mode) (scan : Scan) :
    { request with mode := mode }.gather realPath scan = request.gather realPath scan := by
  have hconsider : ∀ media, { request with mode := mode }.consider realPath media =
      request.consider realPath media :=
    fun media => funext fun found => funext fun entry => consider_mode ht h mode found entry
  unfold gather
  simp only [hconsider]
  rfl

/-- A search that asks for more than the lowest level reads, logs and finds the same in either
mode, whatever directories it goes through. -/
theorem detect_mode (ht : request.threshold = .atLeast least)
    (h : Priority.matchRight.rank ≤ least.rank) (realPath : Path → Option Path) (reader : Reader)
    (collator : Collator) :
    { request with mode := .sidecar }.detect realPath reader collator =
      { request with mode := .listing }.detect realPath reader collator := by
  unfold detect
  simp only [gather_mode ht h]
  rfl

theorem detect_mode_subs :
    let request : Request :=
      ⟨Path.ofText "/m/Movie.mkv", ["./Subs"], .atLeast .matchLeft, false, .sidecar⟩
    let reader := Reader.ofFiles (Path.ofText "/m/Subs") ["Movie.sub", "Other.idx", "My Movie.idx"]
    Priority.matchRight.rank ≤ Priority.matchLeft.rank ∧
      { request with mode := .sidecar }.detect (fun _ => none) reader Order.ascii =
        { request with mode := .listing }.detect (fun _ => none) reader Order.ascii := by
  intro request reader
  have hleast : Priority.matchRight.rank ≤ Priority.matchLeft.rank := by decide
  exact ⟨hleast, detect_mode rfl hleast (fun _ => none) reader Order.ascii⟩

/-- At the lowest level the modes differ: only a listing takes an unrelated file in an extra
directory for a companion. -/
example :
    let request : Request := ⟨Path.ofText "/m/Movie.mkv", [], .atLeast .matchNone, false, .sidecar⟩
    let entry : Entry := ⟨"Other.idx", Path.ofText "/m/Subs", .extra, .file⟩
    request.judge "movie" entry = none ∧
      { request with mode := .listing }.judge "movie" entry = some (.subtitle, .matchNone) := by
  decide +kernel

end Request

end TrackFinder
