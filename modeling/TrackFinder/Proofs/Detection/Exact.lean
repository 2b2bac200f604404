import Mathlib.Data.List.Forall2
import TrackFinder.Proofs.Detection.Outcome
import TrackFinder.Proofs.Order.Lawful

/-! A search reports every entry that fits, once, and rejects just those that give way. -/
namespace TrackFinder

variable {realPath : Path → Option Path} {reader : Reader} {collator : Collator}
  {request : Request} {dir : Path} {media : FileName} {entry : Entry} {c : Companion}

namespace Companion

variable {all : List Companion}

/-- Whether a companion may be reported in front of another: it is the stronger one, or as strong
and not the later one by its path. -/
def Precedes (collator : Collator) (a b : Companion) : Prop :=
  b.priority.rank < a.priority.rank ∨
    a.priority = b.priority ∧ (collator a.path b.path).isLE

theorem precedes_of_isLE {a b : Companion} (h : (Order.companions collator a b).isLE) :
    a.Precedes collator b := by
  rcases Ordering.isLE_then_iff_or.mp h with hlt | ⟨heq, hpath⟩
  · exact Or.inl (Nat.compare_eq_lt.mp hlt)
  · exact Or.inr ⟨(Std.LawfulEqCmp.eq_of_compare heq).symm, hpath⟩

/-- Both lists of a report are in order. -/
theorem pairwise_precedes [Std.TransCmp collator] (all : List Companion) :
    (kept collator all).Pairwise (Precedes collator) ∧
      (dropped collator all).Pairwise (Precedes collator) :=
  ⟨(Order.sort_pairwise _).imp precedes_of_isLE, (Order.sort_pairwise _).imp precedes_of_isLE⟩

/-- Settling and sorting lose no companion and invent none. -/
theorem kept_append_dropped_perm (collator : Collator) (all : List Companion) :
    ((kept collator all ++ dropped collator all).map bare).Perm (all.map bare) := by
  have hparts : (kept collator all ++ dropped collator all).Perm (all.map (verdict all)) := by
    refine ((Order.sort_perm _ _).append (Order.sort_perm _ _)).trans ?_
    exact List.perm_append_comm.trans (List.filter_append_perm isRejected _)
  have hbare : (all.map (verdict all)).map bare = all.map bare := by
    rw [List.map_map]
    exact List.map_congr_left fun c _ => bare_verdict all c
  rw [← hbare]
  exact hparts.map bare

theorem mem_dropped_iff (hall : ∀ d ∈ all, d.rejection = none)
    (hc : c ∈ kept collator all ++ dropped collator all) :
    c ∈ dropped collator all ↔ GivesWay all c := by
  have hmem : c ∈ all.map (verdict all) := by
    rcases List.mem_append.mp hc with h | h
    · exact (mem_kept.mp h).1
    · exact (mem_dropped.mp h).1
  obtain ⟨d, hd, rfl⟩ := List.mem_map.mp hmem
  have hway : GivesWay all (verdict all d) ↔ GivesWay all d := by
    rw [← givesWay_bare, bare_verdict, givesWay_bare]
  rw [mem_dropped, isRejected_verdict, hway]
  simp [hmem, isRejected, hall d hd]

end Companion

namespace Request

instance : Decidable (request.Fits realPath media entry) :=
  decidable_of_iff
    (¬ entry.isSkipped request.showHidden ∧ (TrackKind.ofFileName? entry.name).isSome ∧
      entry.type = .file ∧ request.threshold.accepts (request.priorityOf media entry) ∧
      ¬ (entry.name = media ∧ entry.path.sameFile realPath request.media) ∧
      entry.path.text?.isSome)
    ⟨fun ⟨hs, hk, hf, ha, ho, ht⟩ => ⟨hs, hk, hf, ha, ho, ht⟩,
      fun h => ⟨h.shown, h.isTrack, h.isFile, h.accepted, h.isOther, h.isText⟩⟩

/-- The entries of the directories that are companions of the media file. -/
def fitting (realPath : Path → Option Path) (reader : Reader) (request : Request)
    (media : FileName) (dirs : List (Path × Location)) : List Entry :=
  (reader.contents dirs).filter fun e => request.Fits realPath media e

theorem mem_fitting {dirs : List (Path × Location)} :
    entry ∈ request.fitting realPath reader media dirs ↔
      entry ∈ reader.contents dirs ∧ request.Fits realPath media entry := by
  simp [fitting]

theorem isSome_companion? :
    (request.companion? realPath media entry).isSome ↔ request.Fits realPath media entry := by
  constructor
  · intro h
    obtain ⟨c, hc⟩ := Option.isSome_iff_exists.mp h
    exact (companion?_eq_some.mp hc).1
  · intro h
    obtain ⟨path, ht⟩ := Option.isSome_iff_exists.mp h.isText
    obtain ⟨kind, hk⟩ := Option.isSome_iff_exists.mp h.isTrack
    rw [companion?_eq_some.mpr ⟨h, path, kind, ht, hk, rfl⟩]
    rfl

/-- What is gathered is one companion for each entry that fits, in the order of the entries. -/
theorem forall₂_companion? {R : Entry → Companion → Prop} {entries : List Entry}
    (h : ∀ e ∈ entries, ∀ c, request.companion? realPath media e = some c → R e c) :
    List.Forall₂ R (entries.filter fun e => request.Fits realPath media e)
      (entries.filterMap (request.companion? realPath media)) := by
  induction entries with
  | nil => exact .nil
  | cons e entries ih =>
    obtain ⟨he, hentries⟩ := List.forall_mem_cons.mp h
    cases hc : request.companion? realPath media e with
    | none =>
      have hno : ¬ request.Fits realPath media e := by rw [← isSome_companion?, hc]; simp
      simpa [hc, hno] using ih hentries
    | some c =>
      have hfit : request.Fits realPath media e := by rw [← isSome_companion?, hc]; rfl
      simpa [hc, hfit] using And.intro (he c hc) (ih hentries)

theorem map_filterMap_companion? {β : Type} (f : Companion → β) (g : Entry → β)
    (h : ∀ e c, request.companion? realPath media e = some c → f c = g e) (entries : List Entry) :
    (entries.filterMap (request.companion? realPath media)).map f =
      (entries.filter fun e => request.Fits realPath media e).map g := by
  symm
  rw [← List.forall₂_eq_eq_eq, List.forall₂_map_left_iff, List.forall₂_map_right_iff]
  exact forall₂_companion? fun e _ c hc => (h e c hc).symm

/-- An index that is gathered is an entry that fits, and the other way around. -/
theorem exists_index_iff (c : Companion) :
    (∃ i ∈ request.gathered realPath reader dir media, i.hasExtension "idx" ∧ i.sameStem c) ↔
      ∃ e ∈ request.fitting realPath reader media (request.searched realPath dir),
        ∃ path, e.path.text? = some path ∧ c.indexPath path := by
  constructor
  · rintro ⟨i, hi, hidx⟩
    obtain ⟨e, he, hc⟩ := mem_gathered.mp hi
    obtain ⟨hfit, path, kind, ht, hk, rfl⟩ := companion?_eq_some.mp hc
    refine ⟨e, mem_fitting.mpr ⟨he, hfit⟩, path, ht, ?_⟩
    exact (Bool.and_eq_true _ _).mpr hidx
  · rintro ⟨e, he, path, ht, hidx⟩
    obtain ⟨he, hfit⟩ := mem_fitting.mp he
    obtain ⟨i, hi⟩ := Option.isSome_iff_exists.mp (isSome_companion?.mpr hfit)
    obtain ⟨-, path', kind, ht', hk, rfl⟩ := companion?_eq_some.mp hi
    have hpath : path' = path := Option.some.inj (ht'.symm.trans ht)
    subst hpath
    exact ⟨_, mem_gathered.mpr ⟨e, he, hi⟩, (Bool.and_eq_true _ _).mp hidx⟩

/-- A search reports each entry that fits, once, with its path, kind and priority, and nothing
else. It rejects the subtitle streams whose index fits as well and the karaoke tracks that do not
have the very name of the media file. By a lawful collator both lists are in order. -/
theorem detect_exact [Std.TransCmp collator] (reader : Reader)
    (hon : request.threshold ≠ .disabled) (hs : request.splitMedia = .ok (dir, media)) :
    ∃ dirs detection, request.directories realPath = .ok dirs ∧
      (request.detect realPath reader collator).value = .ok detection ∧
      ((detection.candidates ++ detection.rejected).map fun c =>
          (some c.path, some c.kind, c.priority)).Perm
        ((request.fitting realPath reader media dirs).map fun e =>
          (e.path.text?, TrackKind.ofFileName? e.name, request.priorityOf media e)) ∧
      (∀ c ∈ detection.candidates ++ detection.rejected, c ∈ detection.rejected ↔
        (c.hasExtension "sub" ∧ ∃ e ∈ request.fitting realPath reader media dirs,
          ∃ path, e.path.text? = some path ∧ c.indexPath path) ∨
        (c.hasExtension "cdg" ∧ c.priority ≠ .matchAll)) ∧
      detection.candidates.Pairwise (Companion.Precedes collator) ∧
      detection.rejected.Pairwise (Companion.Precedes collator) := by
  refine ⟨_, _, directories_eq hs, value_detect hon hs, ?_, ?_, Companion.pairwise_precedes _⟩
  · have hperm := (Companion.kept_append_dropped_perm collator
      (request.gathered realPath reader dir media)).map fun c =>
        (some c.path, some c.kind, c.priority)
    rw [List.map_map, List.map_map] at hperm
    refine hperm.trans (.of_eq (map_filterMap_companion? _ _ ?_ _))
    intro e c hc
    obtain ⟨-, path, kind, ht, hk, rfl⟩ := companion?_eq_some.mp hc
    simp only [Function.comp, Companion.bare, Companion.found, ht, hk]
  · intro c hc
    have hnew : ∀ d ∈ request.gathered realPath reader dir media, d.rejection = none :=
      fun d hd => rejection_of_mem_gathered hd
    rw [Companion.mem_dropped_iff hnew hc, Companion.GivesWay, exists_index_iff]

/-- A search beside `/m/Movie.mkv` alone, for all that is a companion. -/
def movie : Request := ⟨Path.ofText "/m/Movie.mkv", [], .atLeast .matchNone, false, .sidecar⟩

/-- A subtitle stream without its index, the index of another one and a dubious karaoke track. -/
def movieReader : Reader :=
  .ofFiles (Path.ofText "/m") ["Movie.sub", "Other.idx", "Movie.en.cdg"]

theorem detect_exact_movie :
    ∃ dirs detection, movie.directories (fun _ => none) = .ok dirs ∧
      (movie.detect (fun _ => none) movieReader Order.ascii).value = .ok detection ∧
      ((detection.candidates ++ detection.rejected).map fun c =>
          (some c.path, some c.kind, c.priority)).Perm
        ((movie.fitting (fun _ => none) movieReader "Movie.mkv" dirs).map fun e =>
          (e.path.text?, TrackKind.ofFileName? e.name, movie.priorityOf "Movie.mkv" e)) ∧
      (∀ c ∈ detection.candidates ++ detection.rejected, c ∈ detection.rejected ↔
        (c.hasExtension "sub" ∧ ∃ e ∈ movie.fitting (fun _ => none) movieReader "Movie.mkv" dirs,
          ∃ path, e.path.text? = some path ∧ c.indexPath path) ∨
        (c.hasExtension "cdg" ∧ c.priority ≠ .matchAll)) ∧
      detection.candidates.Pairwise (Companion.Precedes Order.ascii) ∧
      detection.rejected.Pairwise (Companion.Precedes Order.ascii) :=
  detect_exact movieReader (by decide)
    (show movie.splitMedia = .ok (Path.ofText "/m", "Movie.mkv") from rfl)

/-- That some index fits is not enough to reject a subtitle stream, and others are rejected too. -/
theorem detect_not_by_extension :
    ∃ dirs detection, movie.directories (fun _ => none) = .ok dirs ∧
      (movie.detect (fun _ => none) movieReader Order.ascii).value = .ok detection ∧
      (∃ c ∈ detection.candidates, c ∉ detection.rejected ∧ c.hasExtension "sub" ∧
        ∃ e ∈ movie.fitting (fun _ => none) movieReader "Movie.mkv" dirs,
          e.name.hasExtensionIn ["idx"]) ∧
      ∃ c ∈ detection.rejected, ¬ c.hasExtension "sub" := by
  have hs : movie.splitMedia = .ok (Path.ofText "/m", "Movie.mkv") := rfl
  refine ⟨_, _, directories_eq hs, value_detect (by decide) hs, ?_, ?_⟩
  · refine ⟨⟨"/m/Movie.sub", .subtitle, .matchAll, none⟩, Companion.mem_kept.mpr ?_, ?_, ?_⟩
    · decide +kernel
    · intro h
      exact absurd (Companion.mem_dropped.mp h).2 (by decide)
    · decide +kernel
  · refine ⟨⟨"/m/Movie.en.cdg", .subtitle, .matchLeft, some .weakKaraokeMatch⟩,
      Companion.mem_dropped.mpr ?_, ?_⟩
    · decide +kernel
    · decide +kernel

end Request

end TrackFinder
