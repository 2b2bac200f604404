import TrackFinder.Proofs.Detection.Hidden
import TrackFinder.Proofs.Playlist.Narrow

/-! Hiding dot-files takes them away from the items of a playlist and from the companions of the
others. -/
namespace TrackFinder

variable {collator : Collator}

/-- The same options with dot-files shown or hidden. -/
def ListingOptions.showing (shown : Bool) (options : ListingOptions) : ListingOptions :=
  { options with showHidden := shown }

theorem ListingOptions.narrows_showing (realPath : Path → Option Path) (options : ListingOptions) :
    (options.showing true).Narrows realPath Companion.isShown (fun name => !name.isHidden)
      (options.showing false) where
  sort_eq := rfl
  alreadySorted_eq := rfl
  request media := Request.narrows_showing realPath (Playlist.request options media)
  playable_eq entries := by
    rw [Playlist.playable, Playlist.playable, List.filter_filter]
    apply List.filter_congr
    intro e he
    simp only [showing, Entry.isSkipped_false]
    cases e.isSkipped true <;> cases e.name.isHidden <;> simp

/-- Without dot-files a search and a playlist show what they show with them, less the dot-files:
the others keep their order, their priorities and the reasons why they are rejected. -/
theorem hiding_filters [Std.TransCmp collator] (realPath : Path → Option Path) :
    (∀ (request : Request) (reader : Reader), reader.HasStepNames →
      ((request.showing false).detect realPath reader collator).value =
        ((request.showing true).detect realPath reader collator).value.map
          (Detection.only Companion.isShown)) ∧
    ∀ (options : ListingOptions) (dir : Path) (entries : List Entry),
      (∀ e ∈ entries, '/' ∉ e.name.toList) →
      (Playlist.ofEntries realPath collator (options.showing false) dir entries).value =
        (Playlist.ofEntries realPath collator (options.showing true) dir entries).value.only
          Companion.isShown fun name => !name.isHidden := by
  constructor
  · intro request reader hn
    exact (Request.narrows_showing realPath request).detect_eq hn
  · intro options dir entries hn
    exact (options.narrows_showing realPath).ofEntries_eq hn dir

theorem hiding_filters_movie :
    let names := ["Movie.mkv", ".sub", ".IDX", "Movie.sub", "MOVIE.idx", ".Movie.srt"]
    let entries := names.map fun name => (⟨name, Path.ofText "/m", .primary, .file⟩ : Entry)
    let request : Request :=
      ⟨Path.ofText "/m/Movie.mkv", [], .atLeast .matchNone, true, .sidecar⟩
    let options : ListingOptions := ⟨.atLeast .matchNone, true, "", .collate, false⟩
    ((request.showing false).detect (fun _ => none) (.ofFiles (Path.ofText "/m") names)
        Order.ascii).value =
      ((request.showing true).detect (fun _ => none) (.ofFiles (Path.ofText "/m") names)
        Order.ascii).value.map (Detection.only Companion.isShown) ∧
      (Playlist.ofEntries (fun _ => none) Order.ascii (options.showing false) (Path.ofText "/m")
          entries).value =
        (Playlist.ofEntries (fun _ => none) Order.ascii (options.showing true) (Path.ofText "/m")
          entries).value.only Companion.isShown fun name => !name.isHidden := by
  intro names entries request options
  obtain ⟨hdetect, hlist⟩ := @hiding_filters Order.ascii _ (fun _ => none)
  constructor
  · exact hdetect request _ (Reader.isFaithful_ofFiles (by decide)).hasStepNames
  · exact hlist options _ entries (by decide)

end TrackFinder
