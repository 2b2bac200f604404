import TrackFinder.Proofs.Order.Version
import TrackFinder.Proofs.Playlist.Outcome

/-! The items of a playlist are the entries that are no companions and are not left out, one for
each, in the order that the options ask for. -/
namespace TrackFinder

/-- What a listing shows of an entry: its name, its path and whether it is a directory. -/
abbrev Label := FileName × Path × Bool

variable {realPath : Path → Option Path} {collator : Collator} {options : ListingOptions}
  {dir : Path} {entries beside : List Entry} {entry : Entry} {i : Item} {mode : SortMode}

def Entry.label (entry : Entry) : Label := (entry.name, entry.path, entry.isDirectory)

def Item.label (item : Item) : Label := (item.name, item.path, item.isDirectory)

namespace Label

/-- The order of labels in a mode. Paths have no part in it. -/
def order (mode : SortMode) (collator : Collator) (a b : Label) : Ordering :=
  Order.entries mode collator (a.1, a.2.2) (b.1, b.2.2)

instance [Std.TransCmp collator] : Std.TransCmp (order mode collator) :=
  Order.transCmp_on (Order.entries mode collator) fun a : Label => (a.1, a.2.2)

/-- Whether labels stand in order: directories before all else, the names of either group
ascending, and those that tie as they stood in `given`. -/
structure InOrder (mode : SortMode) (collator : Collator) (given listed : List Label) : Prop where
  directoriesFirst : listed.Pairwise fun a b => b.2.2 → a.2.2
  namesAscend : listed.Pairwise fun a b =>
    a.2.2 = b.2.2 → (Order.names mode collator a.1 b.1).isLE
  tiesStay : ∀ a : Label,
    (listed.filter fun b => a.2.2 = b.2.2 ∧ Order.names mode collator a.1 b.1 = .eq) =
      given.filter fun b => a.2.2 = b.2.2 ∧ Order.names mode collator a.1 b.1 = .eq

theorem inOrder_sort [Std.TransCmp collator] (mode : SortMode) (given : List Label) :
    InOrder mode collator given (Order.sort (order mode collator) given) := by
  have hsorted := @Order.sort_pairwise Label (order mode collator) _ given
  refine ⟨?_, ?_, ?_⟩
  · exact hsorted.imp fun h => (Order.entries_isLE h).1
  · exact hsorted.imp fun h => (Order.entries_isLE h).2
  · intro a
    have hties := @Order.sort_tied Label (order mode collator) _ a given
    simpa only [order, Order.entries_tie] using hties

end Label

/-- Whether an entry has a place in a playlist. -/
def ListingOptions.lists (options : ListingOptions) (entry : Entry) : Bool :=
  !entry.isSkipped options.showHidden &&
    (entry.isDirectory || (TrackKind.ofFileName? entry.name).isNone) &&
    !entry.name.hasListedExtension options.ignored

/-- The labels of the entries that have a place in a playlist, as they were read. -/
def ListingOptions.labels (options : ListingOptions) (entries : List Entry) : List Label :=
  (entries.filter options.lists).map Entry.label

namespace Playlist

theorem playable_eq (options : ListingOptions) (entries : List Entry) :
    playable options entries = entries.filter options.lists := by
  apply List.filter_congr
  intro e he
  have htrack : (!isTrack e) = (e.isDirectory || (TrackKind.ofFileName? e.name).isNone) := by
    rw [isTrack, Bool.not_and, Bool.not_not, Option.not_isSome]
  rw [htrack, ListingOptions.lists]

/-- Only what a listing shows of an entry decides the place of its item. -/
theorem map_label_items (dir : Path) (entries : List Entry) :
    (ofEntries realPath collator options dir entries).value.items.map Item.label =
      if options.alreadySorted || options.sort = .none then options.labels entries
      else Order.sort (Label.order options.sort collator) (options.labels entries) := by
  have hlabels : ((playable options entries).map
      (finished realPath options collator (tracks options entries))).map Item.label =
        options.labels entries := by
    rw [List.map_map, playable_eq]
    rfl
  rw [value_ofEntries, arranged]
  split
  · exact hlabels
  · have hseen : ∀ a b, order options.sort collator a b =
        Label.order options.sort collator a.label b.label := fun _ _ => rfl
    rw [Order.sort_map hseen, hlabels]

theorem finished_bare (h : entry.isDirectory ∨ options.threshold = .disabled) :
    (finished realPath options collator beside entry).companions = [] ∧
      (finished realPath options collator beside entry).rejected = [] := by
  have hoff : (entry.isDirectory || options.threshold = .disabled) = true := by simpa using h
  rw [finished, attached, if_pos hoff]
  exact ⟨Companion.kept_nil collator, Companion.dropped_nil collator⟩

/-- A playlist has one item for each entry that has a place in it: as the entries were read, or, if
the options ask for an order, stably sorted. Directories stand alone, and so does every item if the
search for companions is turned off. Companions are no items. -/
theorem ofEntries_exact [Std.TransCmp collator] (realPath : Path → Option Path)
    (options : ListingOptions) (dir : Path) (entries : List Entry) :
    let items := (ofEntries realPath collator options dir entries).value.items
    (items.map Item.label).Perm (options.labels entries) ∧
      (options.alreadySorted ∨ options.sort = .none →
        items.map Item.label = options.labels entries) ∧
      (¬ (options.alreadySorted ∨ options.sort = .none) →
        Label.InOrder options.sort collator (options.labels entries) (items.map Item.label)) ∧
      (∀ i ∈ items, i.isDirectory ∨ options.threshold = .disabled →
        i.companions = [] ∧ i.rejected = []) ∧
      ∀ i ∈ items, ¬ i.isDirectory → TrackKind.ofFileName? i.name = none := by
  intro items
  have hlabels : items.map Item.label = _ := map_label_items dir entries
  refine ⟨?_, ?_, ?_, ?_, ?_⟩
  · rw [hlabels]
    split
    · exact List.Perm.refl _
    · exact Order.sort_perm _ _
  · intro hkeep
    rw [hlabels, if_pos (by simpa using hkeep)]
  · intro hsort
    rw [hlabels, if_neg (by simpa using hsort)]
    exact Label.inOrder_sort options.sort _
  · intro i hi hbare
    obtain ⟨e, -, rfl⟩ := mem_items.mp hi
    exact finished_bare hbare
  · intro i hi hfile
    obtain ⟨e, he, rfl⟩ := mem_items.mp hi
    rw [playable_eq] at he
    have hlists := (List.mem_filter.mp he).2
    have hfile : e.isDirectory = false := by simpa [finished] using hfile
    simp only [ListingOptions.lists, hfile, Bool.false_or, Bool.and_eq_true,
      Option.isNone_iff_eq_none] at hlists
    exact hlists.1.2

theorem ofEntries_exact_season :
    let entries : List Entry := [⟨"10.mkv", Path.ofText "/m", .primary, .file⟩,
      ⟨"2.mkv", Path.ofText "/m", .primary, .file⟩, ⟨"2.srt", Path.ofText "/m", .primary, .file⟩,
      ⟨"note.nfo", Path.ofText "/m", .primary, .file⟩,
      ⟨"cut.srt", Path.ofText "/m", .primary, .directory⟩]
    let options : ListingOptions := ⟨.standard, false, "nfo", .version, false⟩
    let items := (ofEntries (fun _ => none) Order.ascii options (Path.ofText "/m")
      entries).value.items
    options.labels entries = [("10.mkv", Path.ofText "/m/10.mkv", false),
        ("2.mkv", Path.ofText "/m/2.mkv", false), ("cut.srt", Path.ofText "/m/cut.srt", true)] ∧
      (items.map Item.label).Perm (options.labels entries) ∧
      Label.InOrder .version Order.ascii (options.labels entries) (items.map Item.label) ∧
      (∀ i ∈ items, i.isDirectory → i.companions = [] ∧ i.rejected = []) ∧
      ∀ i ∈ items, ¬ i.isDirectory → TrackKind.ofFileName? i.name = none := by
  intro entries options items
  obtain ⟨hperm, -, horder, hbare, hfiles⟩ := @ofEntries_exact Order.ascii _ (fun _ => none)
    options (Path.ofText "/m") entries
  refine ⟨by decide, hperm, horder (by decide), ?_, hfiles⟩
  intro i hi hdirectory
  exact hbare i hi (Or.inl hdirectory)

theorem mem_map_label_items {label : Label} :
    label ∈ (ofEntries realPath collator options dir entries).value.items.map Item.label ↔
      label ∈ options.labels entries := by
  rw [map_label_items]
  split
  · exact Iff.rfl
  · exact Order.mem_sort

/-- A directory that is not passed over is an item, also under the name of a companion, unless its
name has an extension that is left out. -/
theorem directory_listed_iff (realPath : Path → Option Path) (collator : Collator) (dir : Path)
    (he : entry ∈ entries) (hdirectory : entry.isDirectory)
    (hshown : ¬ entry.isSkipped options.showHidden) :
    entry.label ∈ (ofEntries realPath collator options dir entries).value.items.map Item.label ↔
      ¬ entry.name.hasListedExtension options.ignored := by
  rw [mem_map_label_items, ListingOptions.labels, List.mem_map]
  constructor
  · rintro ⟨e, he, hlabel⟩
    have hname : e.name = entry.name := congrArg Prod.fst hlabel
    have hlists := (List.mem_filter.mp he).2
    rw [ListingOptions.lists, Bool.and_eq_true, Bool.not_eq_true', hname] at hlists
    exact Bool.eq_false_iff.mp hlists.2
  · intro hignored
    refine ⟨entry, List.mem_filter.mpr ⟨he, ?_⟩, rfl⟩
    simp [ListingOptions.lists, hdirectory, hshown, hignored]

/-- A directory of subtitles, named after their extension. -/
def subsDirectory : Entry := ⟨"Subs.sub", Path.ofText "/m", .primary, .directory⟩

theorem directory_listed_iff_subs :
    let options : ListingOptions := ⟨.standard, false, "jpg,nfo", .collate, false⟩
    subsDirectory.label ∈ (ofEntries (fun _ => none) Order.ascii options (Path.ofText "/m")
      [subsDirectory]).value.items.map Item.label := by
  intro options
  exact (directory_listed_iff _ _ _ (List.mem_singleton_self _) rfl (by decide)).mpr (by decide)

/-- The standard list of what is left out leaves out directories under the names of companions. -/
theorem directory_not_listed :
    subsDirectory.isDirectory ∧ ¬ subsDirectory.isSkipped ListingOptions.standard.showHidden ∧
      subsDirectory.label ∉ (ofEntries (fun _ => none) Order.ascii ListingOptions.standard
        (Path.ofText "/m") [subsDirectory]).value.items.map Item.label := by
  refine ⟨rfl, by decide, ?_⟩
  rw [mem_map_label_items]
  decide +kernel

end Playlist

end TrackFinder
