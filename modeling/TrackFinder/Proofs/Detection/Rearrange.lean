import TrackFinder.Proofs.Detection.Outcome
import TrackFinder.Proofs.Order.Lawful
import TrackFinder.Proofs.Request.Directories

/-! What a search reports does not depend on the order in which it comes across the entries. -/
namespace TrackFinder

variable {realPath : Path → Option Path} {reader reader' : Reader} {collator : Collator}
  {request : Request} {dir : Path} {media : FileName}

namespace Companion

variable {all all' : List Companion} {c : Companion}

theorem kept_eq (collator : Collator) (all : List Companion) :
    kept collator all =
      Order.sort (Order.companions collator) (all.filter fun c => !(verdict all c).isRejected) := by
  have hself : (all.filter fun c => !(verdict all c).isRejected).map (verdict all) =
      (all.filter fun c => !(verdict all c).isRejected).map id := by
    apply List.map_congr_left
    intro c hc
    apply verdict_eq_self
    simpa using (List.mem_filter.mp hc).2
  rw [kept, List.filter_map]
  exact congrArg (Order.sort _) (hself.trans (List.map_id _))

/-- Apart from the reasons, the rejected ones are sorted as they were found. -/
theorem map_bare_dropped (collator : Collator) (hnew : ∀ c ∈ all, c.rejection = none) :
    (dropped collator all).map bare =
      Order.sort (Order.companions collator) (all.filter fun c => (verdict all c).isRejected) := by
  have hseen : ∀ a b, Order.companions collator a b = Order.companions collator a.bare b.bare :=
    fun _ _ => rfl
  have hself : ∀ c ∈ all.filter (fun c => (verdict all c).isRejected),
      (bare ∘ verdict all) c = id c := by
    intro c hc
    have hc := hnew c (List.mem_filter.mp hc).1
    rw [Function.comp, bare_verdict, bare, ← hc]
    rfl
  rw [dropped, Order.sort_map hseen, List.filter_map, List.map_map]
  exact congrArg (Order.sort _) ((List.map_congr_left hself).trans (List.map_id _))

theorem givesWay_perm (h : all.Perm all') : GivesWay all c ↔ GivesWay all' c := by
  simp only [GivesWay, h.mem_iff]

theorem isRejected_verdict_perm (h : all.Perm all') (c : Companion) :
    (verdict all c).isRejected = (verdict all' c).isRejected := by
  rw [Bool.eq_iff_iff, isRejected_verdict, isRejected_verdict, givesWay_perm h]

/-- Companions that are told apart by path and priority have one order only. -/
theorem sort_perm_eq [Std.TransCmp collator] [Std.LawfulEqCmp collator] (hp : all.Perm all')
    (htie : ∀ a ∈ all, ∀ b ∈ all, a.path = b.path → a.priority = b.priority → a = b)
    (p : Companion → Bool) :
    Order.sort (Order.companions collator) (all.filter p) =
      Order.sort (Order.companions collator) (all'.filter p) := by
  apply Order.sort_eq_of_perm (hp.filter p)
  intro a ha b hb h
  obtain ⟨hpriority, hpath⟩ := Order.companions_tie.mp h
  exact htie a (List.mem_filter.mp ha).1 b (List.mem_filter.mp hb).1 hpath hpriority

theorem kept_perm [Std.TransCmp collator] [Std.LawfulEqCmp collator] (hp : all.Perm all')
    (htie : ∀ a ∈ all, ∀ b ∈ all, a.path = b.path → a.priority = b.priority → a = b) :
    kept collator all = kept collator all' := by
  simp only [kept_eq, isRejected_verdict_perm hp]
  exact sort_perm_eq hp htie _

theorem dropped_perm [Std.TransCmp collator] [Std.LawfulEqCmp collator] (hp : all.Perm all')
    (htie : ∀ a ∈ all, ∀ b ∈ all, a.path = b.path → a.priority = b.priority → a = b)
    (hnew : ∀ c ∈ all, c.rejection = none) :
    (dropped collator all).map bare = (dropped collator all').map bare := by
  have hnew' : ∀ c ∈ all', c.rejection = none := fun c hc => hnew c (hp.mem_iff.mpr hc)
  rw [map_bare_dropped collator hnew, map_bare_dropped collator hnew']
  simp only [isRejected_verdict_perm hp]
  exact sort_perm_eq hp htie _

end Companion

namespace Request

/-- The path of a companion tells its kind, and none is found rejected. -/
theorem eq_of_path_of_priority {entries : List Entry} :
    ∀ a ∈ entries.filterMap (request.companion? realPath media),
      ∀ b ∈ entries.filterMap (request.companion? realPath media),
        a.path = b.path → a.priority = b.priority → a = b := by
  intro a ha b hb hpath hpriority
  obtain ⟨e, -, ha⟩ := List.mem_filterMap.mp ha
  obtain ⟨e', -, hb⟩ := List.mem_filterMap.mp hb
  have hkind : a.kind = b.kind := by
    have h := kind_of_companion? ha
    rw [hpath, kind_of_companion? hb] at h
    exact (Option.some.inj h).symm
  have hrejection : a.rejection = b.rejection := by
    rw [rejection_of_companion? ha, rejection_of_companion? hb]
  cases a
  cases b
  simp_all

theorem searched_perm {paths : List String} (hp : request.searchPaths.Perm paths) (dir : Path) :
    (request.searched (fun _ => none) dir).Perm
      ({ request with searchPaths := paths }.searched (fun _ => none) dir) :=
  List.Perm.cons _ (extraDirectories_perm (Path.normalize_normalize dir) hp)

theorem gathered_perm {paths : List String} (hr : reader.Rearranges reader')
    (hp : request.searchPaths.Perm paths) (dir : Path) (media : FileName) :
    (request.gathered (fun _ => none) reader dir media).Perm
      ({ request with searchPaths := paths }.gathered (fun _ => none) reader' dir media) :=
  (hr.contents (searched_perm hp dir)).filterMap _

end Request

/-- What a detection reports, but for the reasons why companions are rejected. -/
def Detection.findings (detection : Detection) :
    List Companion × List (String × TrackKind × Priority) :=
  (detection.candidates, detection.rejected.map fun c => (c.path, c.kind, c.priority))

/-- Where no path is real, neither the order of the search paths nor that of the entries in a
directory tells in what a search finds. Only the index that a rejected subtitle stream is said to
give way to may be another one. -/
theorem Request.detect_rearranged [Std.TransCmp collator] [Std.LawfulEqCmp collator]
    {paths : List String} (hr : reader.Rearranges reader')
    (hp : request.searchPaths.Perm paths) :
    (request.detect (fun _ => none) reader collator).value.map Detection.findings =
      ({ request with searchPaths := paths }.detect (fun _ => none) reader' collator).value.map
        Detection.findings := by
  by_cases hoff : request.threshold = .disabled
  · have hoff' : { request with searchPaths := paths }.threshold = .disabled := hoff
    rw [value_detect_disabled hoff, value_detect_disabled hoff']
  · have hoff' : { request with searchPaths := paths }.threshold ≠ .disabled := hoff
    cases hs : request.splitMedia with
    | error error =>
      have hs' : { request with searchPaths := paths }.splitMedia = .error error := hs
      rw [value_detect_error hoff hs, value_detect_error hoff' hs']
    | ok parts =>
      obtain ⟨dir, media⟩ := parts
      have hs' : { request with searchPaths := paths }.splitMedia = .ok (dir, media) := hs
      have hall := gathered_perm hr hp dir media
      have hnew : ∀ c ∈ request.gathered (fun _ => none) reader dir media,
          c.rejection = none := fun c hc => rejection_of_mem_gathered hc
      have hkept := @Companion.kept_perm collator _ _ _ _ hall eq_of_path_of_priority
      have hdropped := @Companion.dropped_perm collator _ _ _ _ hall eq_of_path_of_priority hnew
      have hfields := congrArg (List.map fun c : Companion => (c.path, c.kind, c.priority)) hdropped
      rw [List.map_map, List.map_map] at hfields
      rw [value_detect hoff hs, value_detect hoff' hs']
      exact congrArg Except.ok (Prod.ext hkept hfields)

theorem Request.detect_rearranged_movie :
    ((Request.standard (Path.ofText "/m/Movie.mkv")).detect (fun _ => none)
        (.ofFiles (Path.ofText "/m") ["Movie.sub", "Movie.idx", "MOVIE.idx"])
        Order.ascii).value.map Detection.findings =
      ({ Request.standard (Path.ofText "/m/Movie.mkv") with
          searchPaths := ["./subs", "./Subs", "./subtitles", "./Subtitles"] }.detect
        (fun _ => none) (.ofFiles (Path.ofText "/m") ["MOVIE.idx", "Movie.sub", "Movie.idx"])
        Order.ascii).value.map Detection.findings :=
  detect_rearranged (Reader.rearranges_ofFiles (by decide) _) (by decide)

end TrackFinder
