import TrackFinder.Proofs.Playlist.Narrow

/-! The extensions that are left out of a playlist take items away from it. They do not touch the
companions: these are told from the other entries first, whatever the list says of them. -/
namespace TrackFinder

variable {realPath : Path → Option Path} {collator : Collator} {options : ListingOptions}

/-- The same options with another list of extensions that are left out. -/
def ListingOptions.ignoring (list : String) (options : ListingOptions) : ListingOptions :=
  { options with ignored := list }

theorem FileName.hasListedExtension_empty (name : FileName) :
    name.hasListedExtension "" = false := by
  have hnone : Text.commaItems "" = [] := by decide
  unfold hasListedExtension hasExtensionIn
  rw [hnone]
  cases name.extension? <;> rfl

namespace Playlist

/-- The playlist without the items whose names have a listed extension. -/
def without (list : String) (playlist : Playlist) : Playlist :=
  { playlist with items := playlist.items.filter fun i => !i.name.hasListedExtension list }

theorem playable_ignoring (list : String) (entries : List Entry) :
    playable (options.ignoring list) entries =
      (playable (options.ignoring "") entries).filter fun e =>
        !e.name.hasListedExtension list := by
  rw [playable, playable, List.filter_filter]
  apply List.filter_congr
  intro e _
  simp only [ListingOptions.ignoring, FileName.hasListedExtension_empty, Bool.not_false,
    Bool.and_true]
  exact Bool.and_comm _ _

/-- What is left out has no part in what is attached to an item. -/
theorem finished_ignoring (list : String) (entries : List Entry) (entry : Entry) :
    finished realPath (options.ignoring list) collator (tracks (options.ignoring list) entries)
        entry =
      finished realPath (options.ignoring "") collator (tracks (options.ignoring "") entries)
        entry := rfl

/-- A list of extensions takes away the items whose names have one of them, and nothing else: the
others keep their order and their companions, accepted and rejected, and the reasons why, whatever
the list says of the names of companions. -/
theorem ofEntries_ignoring [Std.TransCmp collator] (realPath : Path → Option Path)
    (options : ListingOptions) (list : String) (dir : Path) (entries : List Entry) :
    (ofEntries realPath collator (options.ignoring list) dir entries).value =
      (ofEntries realPath collator (options.ignoring "") dir entries).value.without list := by
  have hitems : (playable (options.ignoring list) entries).map
        (finished realPath (options.ignoring list) collator
          (tracks (options.ignoring list) entries)) =
      ((playable (options.ignoring "") entries).map
        (finished realPath (options.ignoring "") collator
          (tracks (options.ignoring "") entries))).filter
        fun i => !i.name.hasListedExtension list := by
    rw [playable_ignoring, List.filter_map]
    exact List.map_congr_left fun e _ => finished_ignoring list entries e
  have horder : ∀ items, arranged (options.ignoring list) collator items =
      arranged (options.ignoring "") collator items := fun _ => rfl
  rw [value_ofEntries, value_ofEntries, without, hitems, horder, filter_arranged]

/-- Listing the extensions of companions, in other letters and between blanks, leaves a film its
subtitles. -/
theorem ofEntries_ignoring_subtitles :
    let names := ["Movie.mkv", "Movie.sub", "Movie.idx", "cover.JPG"]
    let entries := names.map fun name => (⟨name, Path.ofText "/m", .primary, .file⟩ : Entry)
    let options : ListingOptions := ⟨.standard, false, "", .collate, false⟩
    let list := "Sub, idx,,srt ,jpg"
    (∃ i ∈ (ofEntries (fun _ => none) Order.ascii (options.ignoring list) (Path.ofText "/m")
        entries).value.items, (∃ c ∈ i.companions, c.path = "/m/Movie.idx") ∧
          ∃ c ∈ i.rejected, c.rejection = some (.pairedWithIndex "/m/Movie.idx")) ∧
      (ofEntries (fun _ => none) Order.ascii (options.ignoring list) (Path.ofText "/m")
          entries).value =
        (ofEntries (fun _ => none) Order.ascii (options.ignoring "") (Path.ofText "/m")
          entries).value.without list := by
  intro names entries options list
  have hplay : ⟨"Movie.mkv", Path.ofText "/m", .primary, .file⟩ ∈
      playable (options.ignoring list) entries := by decide
  let index : Companion := ⟨"/m/Movie.idx", .subtitle, .matchAll, none⟩
  let stream : Companion :=
    ⟨"/m/Movie.sub", .subtitle, .matchAll, some (.pairedWithIndex "/m/Movie.idx")⟩
  refine ⟨⟨_, mem_items.mpr ⟨_, hplay, rfl⟩, ⟨index, ?_, rfl⟩, stream, ?_, rfl⟩, ?_⟩
  · exact Companion.mem_kept.mpr (by decide +kernel)
  · exact Companion.mem_dropped.mpr (by decide +kernel)
  · exact ofEntries_ignoring (fun _ => none) options list (Path.ofText "/m") entries

end Playlist

end TrackFinder
