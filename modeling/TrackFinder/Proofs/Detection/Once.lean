import TrackFinder.Proofs.Detection.Exact
import TrackFinder.Proofs.Request.Directories
import TrackFinder.Proofs.Request.Media

/-! A search reports no file twice, and the media file not at all. -/
namespace TrackFinder

variable {realPath : Path → Option Path} {reader : Reader} {collator : Collator}
  {request : Request} {dir : Path} {media : FileName} {entry e : Entry} {c : Companion}
  {detection : Detection} {dirs : List (Path × Location)}

/-- Where each file has a name of its own in its directory, directory and name tell it from all
others. -/
theorem Reader.ListsOnce.pairwise_contents (h : reader.ListsOnce)
    (hdirs : (dirs.map Prod.fst).Nodup) (hnormal : ∀ d ∈ dirs, d.1.normalize = d.1) :
    (reader.contents dirs).Pairwise fun a b =>
      ¬ (a.dir.normalize = b.dir.normalize ∧ a.name = b.name) := by
  apply List.pairwise_flatMap.mpr
  constructor
  · intro d _
    refine (List.pairwise_map.mp (h.nodup d.1 d.2)).imp ?_
    exact fun hne heq => hne heq.2
  · apply (List.pairwise_map.mp hdirs).imp_of_mem
    intro d d' hd hd' hne a ha b hb heq
    have hin : a.dir.normalize = d.1.normalize :=
      Path.normalize_congr (eq_of_beq (h.inDir d.1 d.2 a ha))
    have hin' : b.dir.normalize = d'.1.normalize :=
      Path.normalize_congr (eq_of_beq (h.inDir d'.1 d'.2 b hb))
    rw [hnormal d hd] at hin
    rw [hnormal d' hd'] at hin'
    exact hne (hin.symm.trans (heq.1.trans hin'))

namespace Request

theorem path_of_companion? (h : request.companion? realPath media entry = some c) :
    Path.ofText c.path = entry.path := by
  obtain ⟨-, path, kind, ht, -, rfl⟩ := companion?_eq_some.mp h
  exact congrArg Path.mk (Utf8.decode?_eq_some.mp ht)

/-- What a search reports, if anything, are the entries that fit, each as often as it is listed. -/
theorem reported_perm (hd : (request.detect realPath reader collator).value = .ok detection) :
    detection.candidates ++ detection.rejected = [] ∨
      ∃ dir media, request.splitMedia = .ok (dir, media) ∧
        ((detection.candidates ++ detection.rejected).map fun c => Path.ofText c.path).Perm
          ((request.fitting realPath reader media (request.searched realPath dir)).map
            Entry.path) := by
  obtain ⟨-, rfl⟩ | ⟨-, dir, media, hs, rfl⟩ := value_detect_eq_ok.mp hd
  · exact Or.inl rfl
  · refine Or.inr ⟨dir, media, hs, ?_⟩
    have hperm := (Companion.kept_append_dropped_perm collator
      (request.gathered realPath reader dir media)).map fun c => Path.ofText c.path
    rw [List.map_map, List.map_map] at hperm
    refine hperm.trans (.of_eq (map_filterMap_companion? _ _ ?_ _))
    intro e c hc
    change Path.ofText c.path = e.path
    exact path_of_companion? hc

theorem isInner_of_mem_fitting (hn : reader.HasStepNames)
    (he : entry ∈ request.fitting realPath reader media dirs) :
    (Component.name (Path.ofText entry.name).bytes).IsInner := by
  obtain ⟨hlisted, hfit⟩ := mem_fitting.mp he
  exact Entry.isInner_name (hn.contents dirs entry hlisted) hfit.shown

/-- An entry that fits is not the media file by another spelling. -/
theorem normalize_path_ne (hs : request.splitMedia = .ok (dir, media)) (hn : reader.HasStepNames)
    (he : entry ∈ request.fitting realPath reader media dirs) :
    entry.path.normalize ≠ request.media.normalize := by
  intro h
  have hsteps := Path.normalize_inj.mp h
  rw [Entry.path, Path.collapsed_join _ (isInner_of_mem_fitting hn he),
    collapsed_media hs] at hsteps
  have hname : entry.name = media :=
    Utf8.encode_injective (Component.name.inj (List.cons.inj hsteps).1)
  have hsame : entry.path.sameFile realPath request.media := by
    rw [Path.sameFile, Path.same_normalize.mpr h, Bool.true_or]
  exact (mem_fitting.mp he).2.isOther ⟨hname, hsame⟩

/-- The directories searched are told apart by their normal forms, and so are the files in them. -/
theorem pairwise_fitting (hr : reader.ListsOnce) (realPath : Path → Option Path)
    (request : Request) (media : FileName) (dir : Path) :
    (request.fitting realPath reader media (request.searched realPath dir)).Pairwise fun a b =>
      a.path.normalize ≠ b.path.normalize := by
  have hlisted := hr.pairwise_contents
    (nodup_directories realPath dir.normalize request.searchPaths)
    fun d hd => normalize_of_mem_directories (Path.normalize_normalize dir) hd
  refine (hlisted.filter _).imp_of_mem ?_
  intro a b ha hb hne heq
  have hinner := isInner_of_mem_fitting hr.hasStepNames ha
  have hinner' := isInner_of_mem_fitting hr.hasStepNames hb
  obtain ⟨hdir, hname⟩ := (Path.normalize_join_inj hinner hinner').mp heq
  exact hne ⟨hdir, Utf8.encode_injective (congrArg Path.bytes hname)⟩

/-- The media file is never reported as a companion of its own, by whatever spelling of its path the
search comes across it. -/
theorem detect_without_media (hn : reader.HasStepNames)
    (hd : (request.detect realPath reader collator).value = .ok detection) :
    ∀ c ∈ detection.candidates ++ detection.rejected,
      (Path.ofText c.path).normalize ≠ request.media.normalize := by
  intro c hc
  obtain hnone | ⟨dir, media, hs, hperm⟩ := reported_perm hd
  · rw [hnone] at hc
    cases hc
  · obtain ⟨e, he, hpath⟩ := List.mem_map.mp (hperm.subset (List.mem_map_of_mem hc))
    rw [← hpath]
    exact normalize_path_ne hs hn he

theorem detect_without_media_song :
    ∃ detection, ((standard (Path.ofText "/x/../m/./Song.ac3/")).detect (fun _ => none)
        (.ofFiles (Path.ofText "/m") ["Song.ac3", "Song.srt"]) Order.ascii).value =
          .ok detection ∧
      ∀ c ∈ detection.candidates ++ detection.rejected,
        (Path.ofText c.path).normalize ≠ (Path.ofText "/x/../m/./Song.ac3/").normalize := by
  have hs : (standard (Path.ofText "/x/../m/./Song.ac3/")).splitMedia =
      .ok (Path.ofText "/x/../m", "Song.ac3") := rfl
  have hn : (Reader.ofFiles (Path.ofText "/m") ["Song.ac3", "Song.srt"]).HasStepNames :=
    (Reader.isFaithful_ofFiles (by decide)).hasStepNames
  exact ⟨_, value_detect (by decide) hs, detect_without_media hn (value_detect (by decide) hs)⟩

/-- No file is reported twice, not even by two spellings of its path. -/
theorem detect_nodup (hr : reader.ListsOnce)
    (hd : (request.detect realPath reader collator).value = .ok detection) :
    ((detection.candidates ++ detection.rejected).map fun c =>
      (Path.ofText c.path).normalize).Nodup := by
  obtain hnone | ⟨dir, media, hs, hperm⟩ := reported_perm hd
  · rw [hnone]
    exact List.nodup_nil
  · have hnormal := hperm.map Path.normalize
    rw [List.map_map, List.map_map] at hnormal
    exact hnormal.nodup_iff.mpr
      (List.pairwise_map.mpr (pairwise_fitting hr realPath request media dir))

theorem detect_nodup_link :
    let request : Request := { standard (Path.ofText "/m/Movie.mkv") with
      searchPaths := ["../m", "/link", "./Subs/.."] }
    let realPath : Path → Option Path := fun path =>
      if path = Path.ofText "/link" then some (Path.ofText "/m") else none
    ∃ detection, (request.detect realPath
        (.ofFiles (Path.ofText "/m") ["Movie.srt", "Movie.idx", "Movie.sub"])
        Order.ascii).value = .ok detection ∧
      ((detection.candidates ++ detection.rejected).map fun c =>
        (Path.ofText c.path).normalize).Nodup := by
  intro request realPath
  have hs : request.splitMedia = .ok (Path.ofText "/m", "Movie.mkv") := rfl
  refine ⟨_, value_detect (by decide) hs, detect_nodup ?_ (value_detect (by decide) hs)⟩
  exact Reader.listsOnce_ofFiles (by decide) (by decide)

end Request

end TrackFinder
