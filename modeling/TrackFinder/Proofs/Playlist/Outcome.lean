import TrackFinder.Playlist
import TrackFinder.Proofs.Detection.Outcome

/-! What a playlist comes to, without the log of how it came to it. -/
namespace TrackFinder.Playlist

variable {realPath : Path → Option Path} {reader : Reader} {collator : Collator}
  {options : ListingOptions} {dir : Path} {entries : List Entry} {entry : Entry} {i : Item}
  {media : FileName}

/-- The companions of an item among the tracks beside it, in the order given. -/
def attached (realPath : Path → Option Path) (options : ListingOptions) (tracks : List Entry)
    (entry : Entry) : List Companion :=
  if entry.isDirectory || options.threshold = .disabled then []
  else
    match (request options entry.path).splitMedia with
    | .error _ => []
    | .ok (_, media) => tracks.filterMap ((request options entry.path).companion? realPath media)

/-- An entry has no companions whatever lies beside it, or those of a search for its file. -/
theorem attached_eq (realPath : Path → Option Path) (options : ListingOptions) (entry : Entry) :
    (∀ tracks, attached realPath options tracks entry = []) ∨
      ∃ media, ∀ tracks, attached realPath options tracks entry =
        tracks.filterMap ((request options entry.path).companion? realPath media) := by
  unfold attached
  split
  · exact Or.inl fun _ => rfl
  · split
    · exact Or.inl fun _ => rfl
    · exact Or.inr ⟨_, fun _ => rfl⟩

theorem companion?_eq_none (h : ¬ (!entry.isSkipped options.showHidden && isTrack entry))
    (path : Path) : (request options path).companion? realPath media entry = none := by
  rw [← Option.not_isSome_iff_eq_none]
  intro hsome
  obtain ⟨c, hc⟩ := Option.isSome_iff_exists.mp hsome
  have hfit := (Request.companion?_eq_some.mp hc).1
  have hdirectory : entry.isDirectory = false := by
    rw [Entry.isDirectory, hfit.isFile]
    rfl
  have hshown : entry.isSkipped options.showHidden = false := Bool.eq_false_iff.mpr hfit.shown
  exact h (by simp [hshown, isTrack, hdirectory, hfit.isTrack])

/-- The tracks are all that can be a companion. -/
theorem filterMap_tracks (entries : List Entry) (path : Path) (media : FileName) :
    (tracks options entries).filterMap ((request options path).companion? realPath media) =
      entries.filterMap ((request options path).companion? realPath media) := by
  rw [tracks, List.filterMap_filter]
  congr 1
  funext e
  split
  · rfl
  · rename_i h
    exact (companion?_eq_none h path).symm

/-- The item of an entry beside the tracks. -/
def finished (realPath : Path → Option Path) (options : ListingOptions) (collator : Collator)
    (tracks : List Entry) (entry : Entry) : Item :=
  ⟨entry.name, entry.path, entry.isDirectory,
    Companion.kept collator (attached realPath options tracks entry),
    Companion.dropped collator (attached realPath options tracks entry)⟩

/-- The items in the order that the options ask for. -/
def arranged (options : ListingOptions) (collator : Collator) (items : List Item) : List Item :=
  if options.alreadySorted || options.sort = .none then items
  else Order.sort (order options.sort collator) items

theorem value_item (tracks : List Entry) (entry : Entry) :
    (item realPath options collator tracks entry).value =
      finished realPath options collator tracks entry := by
  unfold item finished attached
  by_cases hoff : (entry.isDirectory || options.threshold = .disabled) = true
  · simp only [if_pos hoff, Run.value_pure, Companion.kept_nil, Companion.dropped_nil]
  · have hon : (request options entry.path).threshold ≠ .disabled := by
      intro h
      exact hoff (by simp [show options.threshold = .disabled from h])
    simp only [if_neg hoff]
    cases hs : (request options entry.path).splitMedia with
    | error error =>
      simp only [Request.gather, if_neg hon, hs, Run.value_bind, Run.value_pure,
        Companion.kept_nil, Companion.dropped_nil]
    | ok parts =>
      obtain ⟨mediaDir, media⟩ := parts
      simp only [Run.value_bind, Request.value_gather hon hs, Companion.value_conclude,
        Run.value_pure, Scan.entries_ofEntries]

theorem value_ofEntries (dir : Path) (entries : List Entry) :
    (ofEntries realPath collator options dir entries).value =
      ⟨dir, arranged options collator ((playable options entries).map
        (finished realPath options collator (tracks options entries)))⟩ := by
  simp only [ofEntries, Run.value_bind, Run.value_mapM, Run.value_pure, value_item, arranged]

theorem value_ofDirectory_eq_ok {playlist : Playlist} :
    (ofDirectory realPath reader collator options dir).value = .ok playlist ↔
      ∃ entries, (reader.entries dir .primary).result = .ok entries ∧
        (ofEntries realPath collator
          { options with alreadySorted := options.alreadySorted || reader.sorted }
          dir entries).value = playlist := by
  simp only [ofDirectory, Run.value_bind, Reader.value_read]
  cases (reader.entries dir .primary).result with
  | error failure => simp
  | ok entries => simp

theorem mem_arranged {items : List Item} : i ∈ arranged options collator items ↔ i ∈ items := by
  unfold arranged
  split
  · exact Iff.rfl
  · exact Order.mem_sort

/-- The items are those of the playable entries. -/
theorem mem_items :
    i ∈ (ofEntries realPath collator options dir entries).value.items ↔
      ∃ e ∈ playable options entries,
        finished realPath options collator (tracks options entries) e = i := by
  rw [value_ofEntries, mem_arranged, List.mem_map]

end TrackFinder.Playlist
