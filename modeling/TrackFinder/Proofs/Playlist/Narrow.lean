import TrackFinder.Proofs.Detection.Narrow
import TrackFinder.Proofs.Order.Version
import TrackFinder.Proofs.Playlist.Outcome

/-! Options that list less and ask for less at each item leave a playlist its other items, and these
their other companions. -/
namespace TrackFinder

variable {realPath : Path → Option Path} {collator : Collator}
  {wide narrow options : ListingOptions} {entries : List Entry} {p : Companion → Bool}
  {q : FileName → Bool}

/-- The item without the companions that `p` does not hold of. -/
def Item.only (p : Companion → Bool) (item : Item) : Item :=
  { item with
    companions := item.companions.filter p
    rejected := item.rejected.filter p }

namespace Playlist

/-- The playlist without the items whose names `q` does not hold of, and without the companions that
`p` does not hold of. -/
def only (p : Companion → Bool) (q : FileName → Bool) (playlist : Playlist) : Playlist :=
  { playlist with items := (playlist.items.filter fun i => q i.name).map (Item.only p) }

instance [Std.TransCmp collator] {mode : SortMode} : Std.TransCmp (order mode collator) :=
  Order.transCmp_on (Order.entries mode collator) fun i : Item => (i.name, i.isDirectory)

/-- Items may be left out before or after they are put in order. -/
theorem filter_arranged [Std.TransCmp collator] (keep : Item → Bool) (items : List Item) :
    (arranged options collator items).filter keep =
      arranged options collator (items.filter keep) := by
  unfold arranged
  split
  · rfl
  · exact Order.sort_filter keep items

/-- The order of items does not see their companions. -/
theorem map_only_arranged (p : Companion → Bool) (items : List Item) :
    (arranged options collator items).map (Item.only p) =
      arranged options collator (items.map (Item.only p)) := by
  unfold arranged
  split
  · rfl
  · have hseen : ∀ a b, order options.sort collator a b =
        order options.sort collator (a.only p) (b.only p) := fun _ _ => rfl
    exact Order.sort_map hseen items

theorem finished_narrow [Std.TransCmp collator] (entry : Entry)
    (h : (request wide entry.path).Narrows realPath p (request narrow entry.path))
    (hn : ∀ e ∈ entries, '/' ∉ e.name.toList) :
    finished realPath narrow collator (tracks narrow entries) entry =
      (finished realPath wide collator (tracks wide entries) entry).only p := by
  have hoff : narrow.threshold = .disabled ↔ wide.threshold = .disabled := h.isOff
  simp only [finished, attached, Item.only, hoff, h.splitMedia_eq]
  split
  · simp
  · cases (request wide entry.path).splitMedia with
    | error error => simp
    | ok parts =>
      simp only [filterMap_tracks, h.kept_eq hn, h.dropped_eq hn]

end Playlist

/-- Whether `narrow` lists the entries of `wide` whose names `q` holds of, in the same order, and
asks at each item for the companions that `p` holds of. -/
structure ListingOptions.Narrows (realPath : Path → Option Path) (p : Companion → Bool)
    (q : FileName → Bool) (wide narrow : ListingOptions) : Prop where
  sort_eq : narrow.sort = wide.sort
  alreadySorted_eq : narrow.alreadySorted = wide.alreadySorted
  request : ∀ media : Path,
    (Playlist.request wide media).Narrows realPath p (Playlist.request narrow media)
  playable_eq : ∀ entries : List Entry, Playlist.playable narrow entries =
    (Playlist.playable wide entries).filter fun e => q e.name

/-- What narrower options list is what the wider ones list, less what they leave out. -/
theorem ListingOptions.Narrows.ofEntries_eq [Std.TransCmp collator]
    (h : wide.Narrows realPath p q narrow) (hn : ∀ e ∈ entries, '/' ∉ e.name.toList)
    (dir : Path) :
    (Playlist.ofEntries realPath collator narrow dir entries).value =
      (Playlist.ofEntries realPath collator wide dir entries).value.only p q := by
  have hitems : (Playlist.playable narrow entries).map
        (Playlist.finished realPath narrow collator (Playlist.tracks narrow entries)) =
      (((Playlist.playable wide entries).map (Playlist.finished realPath wide collator
        (Playlist.tracks wide entries))).filter fun i => q i.name).map (Item.only p) := by
    rw [h.playable_eq, List.filter_map, List.map_map]
    apply List.map_congr_left
    intro e he
    exact Playlist.finished_narrow e (h.request e.path) hn
  have horder : ∀ items, Playlist.arranged narrow collator items =
      Playlist.arranged wide collator items := by
    intro items
    rw [Playlist.arranged, Playlist.arranged, h.sort_eq, h.alreadySorted_eq]
  rw [Playlist.value_ofEntries, Playlist.value_ofEntries, Playlist.only, hitems, horder,
    Playlist.filter_arranged, Playlist.map_only_arranged]

end TrackFinder
