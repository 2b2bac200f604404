import TrackFinder.Proofs.Companion.Stem
import TrackFinder.Proofs.Playlist.Outcome

/-! A subtitle stream gives way to an index that is reported beside it, in a search as in a
playlist. The index itself is never rejected, and it has the priority of the stream. -/
namespace TrackFinder

variable {realPath : Path → Option Path} {collator : Collator}

namespace Companion

variable {all accepted rejected : List Companion} {c i : Companion} {path : String}

/-- Whether each subtitle stream that is rejected for its index leaves that index among the accepted
companions. -/
def Indexed (accepted rejected : List Companion) : Prop :=
  ∀ c ∈ rejected, ∀ path, c.rejection = some (.pairedWithIndex path) →
    c.hasExtension "sub" ∧ ∃ i ∈ accepted, i.path = path ∧ i.hasExtension "idx" ∧
      i.sameStem c ∧ i.priority = c.priority

theorem indexed_kept_dropped (hnew : ∀ c ∈ all, c.rejection = none)
    (hpriority : ∀ c ∈ all, ∀ i ∈ all, i.sameStem c → i.priority = c.priority) :
    Indexed (kept collator all) (dropped collator all) := by
  intro c hc path hpath
  obtain ⟨d, hd, rfl⟩ := List.mem_map.mp (mem_dropped.mp hc).1
  rw [verdict_of_new (hnew d hd)] at hpath ⊢
  obtain ⟨hsub, i, hi, hip, hidx, hstem⟩ := objection?_eq_paired hpath
  -- Nothing is held against an index, so it stands as it was gathered.
  have hverdict : verdict all i = i := by
    rw [verdict_of_new (hnew i hi), objection?_idx hidx, ← hnew i hi]
  have hkept : i ∈ kept collator all := by
    refine mem_kept.mpr ⟨List.mem_map.mpr ⟨i, hi, hverdict⟩, ?_⟩
    simp [isRejected, hnew i hi]
  exact ⟨hsub, i, hkept, hip, hidx, hstem, hpriority d hd i hi hstem⟩

theorem indexed_nil (accepted : List Companion) : Indexed accepted [] := by
  intro c hc
  cases hc

end Companion

theorem Request.indexed_of_entries {request : Request} {media : FileName} {entries : List Entry}
    (hn : ∀ e ∈ entries, '/' ∉ e.name.toList) :
    Companion.Indexed
      (Companion.kept collator (entries.filterMap (request.companion? realPath media)))
      (Companion.dropped collator (entries.filterMap (request.companion? realPath media))) :=
  Companion.indexed_kept_dropped (fun _ hc => rejection_of_mem hc) (priority_eq_of_mem hn)

theorem Request.detect_indexed {request : Request} {reader : Reader} {detection : Detection}
    (hn : reader.HasStepNames)
    (hd : (request.detect realPath reader collator).value = .ok detection) :
    Companion.Indexed detection.candidates detection.rejected := by
  rcases value_detect_eq_ok.mp hd with ⟨-, rfl⟩ | ⟨-, dir, media, -, rfl⟩
  · exact Companion.indexed_nil _
  · exact indexed_of_entries (hn.contents _)

namespace Playlist

variable {options : ListingOptions} {dir : Path} {entries tracks : List Entry} {entry : Entry}
  {i : Item}

theorem attached_indexed (hn : ∀ e ∈ tracks, '/' ∉ e.name.toList) :
    Companion.Indexed (Companion.kept collator (attached realPath options tracks entry))
      (Companion.dropped collator (attached realPath options tracks entry)) := by
  rcases attached_eq realPath options entry with hnone | ⟨media, hsome⟩
  · rw [hnone, Companion.dropped_nil]
    exact Companion.indexed_nil _
  · rw [hsome]
    exact Request.indexed_of_entries hn

theorem item_indexed (hn : ∀ e ∈ entries, '/' ∉ e.name.toList)
    (hi : i ∈ (ofEntries realPath collator options dir entries).value.items) :
    Companion.Indexed i.companions i.rejected := by
  obtain ⟨e, -, rfl⟩ := mem_items.mp hi
  exact attached_indexed fun e he => hn e (List.mem_filter.mp he).1

end Playlist

/-- Wherever a subtitle stream is rejected for its index, that index is accepted, under the stem of
the stream and with its priority: in what a search finds and at every item of a playlist. -/
theorem index_survives (realPath : Path → Option Path) (collator : Collator) :
    (∀ (request : Request) (reader : Reader) (detection : Detection), reader.HasStepNames →
      (request.detect realPath reader collator).value = .ok detection →
      Companion.Indexed detection.candidates detection.rejected) ∧
    ∀ (options : ListingOptions) (dir : Path) (entries : List Entry),
      (∀ e ∈ entries, '/' ∉ e.name.toList) →
      ∀ i ∈ (Playlist.ofEntries realPath collator options dir entries).value.items,
        Companion.Indexed i.companions i.rejected := by
  constructor
  · intro request reader detection hn hd
    exact Request.detect_indexed hn hd
  · intro options dir entries hn i hi
    exact Playlist.item_indexed hn hi

theorem index_survives_movie :
    let names := ["Movie.mkv", "Movie.sub", "MOVIE.idx"]
    let entries := names.map fun name => (⟨name, Path.ofText "/m", .primary, .file⟩ : Entry)
    let options : ListingOptions := ⟨.standard, false, "", .collate, false⟩
    (∃ detection, ((Request.standard (Path.ofText "/m/Movie.mkv")).detect (fun _ => none)
        (.ofFiles (Path.ofText "/m") names) Order.ascii).value = .ok detection ∧
      (∃ c ∈ detection.rejected, c.rejection = some (.pairedWithIndex "/m/MOVIE.idx")) ∧
      Companion.Indexed detection.candidates detection.rejected) ∧
    ∃ i ∈ (Playlist.ofEntries (fun _ => none) Order.ascii options (Path.ofText "/m")
        entries).value.items,
      (∃ c ∈ i.rejected, c.rejection = some (.pairedWithIndex "/m/MOVIE.idx")) ∧
      Companion.Indexed i.companions i.rejected := by
  intro names entries options
  obtain ⟨hdetect, hlist⟩ := index_survives (fun _ => none) Order.ascii
  let sub : Companion :=
    ⟨"/m/Movie.sub", .subtitle, .matchAll, some (.pairedWithIndex "/m/MOVIE.idx")⟩
  constructor
  · have hs : (Request.standard (Path.ofText "/m/Movie.mkv")).splitMedia =
        .ok (Path.ofText "/m", "Movie.mkv") := rfl
    have hd := @Request.value_detect (fun _ => none) (.ofFiles (Path.ofText "/m") names)
      Order.ascii _ _ _ (by decide) hs
    refine ⟨_, hd, ⟨sub, Companion.mem_dropped.mpr (by decide +kernel), rfl⟩, ?_⟩
    exact hdetect _ _ _ (Reader.isFaithful_ofFiles (by decide)).hasStepNames hd
  · have hplay : ⟨"Movie.mkv", Path.ofText "/m", .primary, .file⟩ ∈
        Playlist.playable options entries := by decide
    have hi := (@Playlist.mem_items (fun _ => none) Order.ascii options (Path.ofText "/m") entries
      _).mpr ⟨_, hplay, rfl⟩
    refine ⟨_, hi, ⟨sub, Companion.mem_dropped.mpr (by decide +kernel), rfl⟩, ?_⟩
    exact hlist options (Path.ofText "/m") entries (by decide) _ hi

end TrackFinder
