import TrackFinder.Proofs.Companion.Stem
import TrackFinder.Proofs.Detection.Exact

/-! A search judges an entry by its name, and conflicts are settled by what the path shows. Both
views of a companion have one file name, extension and kind, and companions with one stem have one
name as names are compared. -/
namespace TrackFinder

variable {realPath : Path → Option Path} {request : Request} {media : FileName}
  {found : List Companion} {scan left : Scan}

namespace Request

theorem filterMap_of_disabled (hoff : request.threshold = .disabled) (entries : List Entry) :
    entries.filterMap (request.companion? realPath media) = [] := by
  rw [List.filterMap_eq_nil_iff]
  intro e _
  rw [← Option.not_isSome_iff_eq_none, isSome_companion?]
  intro hfit
  have ha := hfit.accepted
  rw [hoff] at ha
  cases ha

/-- What is gathered are the companions beside a media file of some name, that of the request
unless the search is turned off. -/
theorem value_gather_eq_ok (h : (request.gather realPath scan).value = .ok (found, left)) :
    ∃ media, (request.threshold = .disabled ∨ ∃ dir, request.splitMedia = .ok (dir, media)) ∧
      found = scan.entries.filterMap (request.companion? realPath media) := by
  by_cases hoff : request.threshold = .disabled
  · rw [gather, if_pos hoff] at h
    cases h
    exact ⟨"", Or.inl hoff, (filterMap_of_disabled hoff _).symm⟩
  · cases hs : request.splitMedia with
    | error error =>
      rw [gather, if_neg hoff, hs] at h
      cases h
    | ok parts =>
      obtain ⟨dir, media⟩ := parts
      rw [value_gather hoff hs] at h
      cases h
      exact ⟨media, Or.inr ⟨dir, rfl⟩, rfl⟩

/-- A search finds one companion for each entry that fits, and the entry stands for it. Companions
with one stem have names that count as the same: beside any name they are rated alike, and so they
are beside the media file. -/
theorem views_agree (hn : ∀ e ∈ scan.entries, '/' ∉ e.name.toList)
    (h : (request.gather realPath scan).value = .ok (found, left)) :
    ∃ media, (request.threshold = .disabled ∨ ∃ dir, request.splitMedia = .ok (dir, media)) ∧
      List.Forall₂ Entry.StandsFor
        (scan.entries.filter fun e => request.Fits realPath media e) found ∧
      ∀ c ∈ found, ∀ d ∈ found, c.sameStem d → c.priority = d.priority ∧
        ∀ entry e : Entry, entry.StandsFor c → e.StandsFor d → entry.name.key = e.name.key ∧
          ∀ name, Priority.ofOverlap entry.name.key name = Priority.ofOverlap e.name.key name := by
  obtain ⟨media, hmedia, rfl⟩ := value_gather_eq_ok h
  refine ⟨media, hmedia, ?_, ?_⟩
  · exact forall₂_companion? fun e he c hc => standsFor_of_companion? (hn e he) hc
  · intro c hc d hd hstem
    refine ⟨priority_eq_of_mem hn d hd c hc hstem, ?_⟩
    intro entry e hec hed
    have hkey := hec.key_eq hed hstem
    exact ⟨hkey, fun name => by rw [hkey]⟩

/-- Dots and a slash at the end of directories, directories and names that differ in case, and names
that are no more than an extension. -/
theorem views_agree_dotted :
    let request : Request :=
      ⟨Path.ofText "/m.v/Movie.mkv", [], .atLeast .matchNone, true, .sidecar⟩
    let entry (dir name : String) : Entry := ⟨name, Path.ofText dir, .primary, .file⟩
    let sub := entry "/m.v/" "Movie.SUB"
    let idx := entry "/M.v" "MOVIE.idx"
    let scan := Scan.ofEntries [sub, entry "a.b" ".Sub", idx, entry "/m.v" "notes"]
    let found : List Companion := [⟨"/m.v/Movie.SUB", .subtitle, .matchAll, none⟩,
      ⟨"a.b/.Sub", .subtitle, .matchNone, none⟩, ⟨"/M.v/MOVIE.idx", .subtitle, .matchAll, none⟩]
    (∀ e ∈ scan.entries, '/' ∉ e.name.toList) ∧
    (request.gather (fun _ => none) scan).value = .ok (found, .ofEntries []) ∧
    List.Forall₂ Entry.StandsFor [sub, entry "a.b" ".Sub", idx] found ∧
    sub.name.key = idx.name.key ∧
      ∀ name, Priority.ofOverlap sub.name.key name = Priority.ofOverlap idx.name.key name := by
  intro request entry sub idx scan found
  have hn : ∀ e ∈ scan.entries, '/' ∉ e.name.toList := by decide
  have hs : request.splitMedia = .ok (Path.ofText "/m.v", "Movie.mkv") := rfl
  have hg : (request.gather (fun _ => none) scan).value = .ok (found, .ofEntries []) := by
    rw [value_gather (by decide) hs]
    exact congrArg (fun found => Except.ok (found, Scan.ofEntries [])) (by decide +kernel)
  obtain ⟨media, hmedia, hall, hstems⟩ := views_agree hn hg
  obtain rfl : media = "Movie.mkv" := by
    rcases hmedia with hoff | ⟨dir, hdir⟩
    · cases hoff
    · rw [hs] at hdir
      cases hdir
      rfl
  have hsources : (scan.entries.filter fun e => request.Fits (fun _ => none) "Movie.mkv" e) =
      [sub, entry "a.b" ".Sub", idx] := by decide +kernel
  rw [hsources] at hall
  refine ⟨hn, hg, hall, ?_⟩
  obtain ⟨hsub, hrest⟩ := List.forall₂_cons.mp hall
  obtain ⟨-, hrest⟩ := List.forall₂_cons.mp hrest
  obtain ⟨hidx, -⟩ := List.forall₂_cons.mp hrest
  exact (hstems _ (by simp [found]) _ (by simp [found]) (by decide +kernel)).2 sub idx
    hsub hidx

end Request

end TrackFinder
