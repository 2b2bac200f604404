import TrackFinder.Proofs.Detection.Raise
import TrackFinder.Proofs.Playlist.Narrow

/-! A higher threshold leaves a playlist its items and takes companions away from them. -/
namespace TrackFinder

variable {realPath : Path → Option Path} {collator : Collator} {options : ListingOptions}
  {entries : List Entry} {low high : Priority}

/-- The same options with another threshold. -/
def ListingOptions.asking (threshold : Threshold) (options : ListingOptions) : ListingOptions :=
  { options with threshold := threshold }

theorem ListingOptions.narrows_asking (realPath : Path → Option Path) (options : ListingOptions)
    (h : low.rank ≤ high.rank) :
    (options.asking (.atLeast low)).Narrows realPath (Companion.reaches high.rank) (fun _ => true)
      (options.asking (.atLeast high)) where
  sort_eq := rfl
  alreadySorted_eq := rfl
  request media := Request.narrows_asking realPath (Playlist.request options media) h
  playable_eq entries := by
    rw [List.filter_true]
    rfl

namespace Playlist

/-- The playlist without the companions below a level. Its items stay as they are otherwise. -/
def above (level : Int) (playlist : Playlist) : Playlist :=
  playlist.only (Companion.reaches level) fun _ => true

theorem ofEntries_asking [Std.TransCmp collator] (h : low.rank ≤ high.rank)
    (hn : ∀ e ∈ entries, '/' ∉ e.name.toList) (dir : Path) :
    (ofEntries realPath collator (options.asking (.atLeast high)) dir entries).value =
      (ofEntries realPath collator (options.asking (.atLeast low)) dir entries).value.above
        high.rank :=
  (options.narrows_asking realPath h).ofEntries_eq hn dir

end Playlist

/-- Raising the level of a threshold takes away the companions below it, accepted and rejected, and
changes neither the others nor their order nor what else is reported. -/
theorem Threshold.raise_filters [Std.TransCmp collator] {low high : Int} (hlow : 1 ≤ low)
    (h : low ≤ high) (hhigh : high ≤ 4) :
    ∃ t u, ofLevel low = .ok t ∧ ofLevel high = .ok u ∧
      (∀ (realPath : Path → Option Path) (reader : Reader) (request : Request),
        reader.HasStepNames →
        ((request.asking u).detect realPath reader collator).value =
          ((request.asking t).detect realPath reader collator).value.map
            (Detection.above high)) ∧
      ∀ (realPath : Path → Option Path) (options : ListingOptions) (dir : Path)
        (entries : List Entry), (∀ e ∈ entries, '/' ∉ e.name.toList) →
        (Playlist.ofEntries realPath collator (options.asking u) dir entries).value =
          (Playlist.ofEntries realPath collator (options.asking t) dir entries).value.above
            high := by
  obtain ⟨p, ht, rfl⟩ := exists_ofLevel hlow (Int.le_trans h hhigh)
  obtain ⟨q, hu, rfl⟩ := exists_ofLevel (Int.le_trans hlow h) hhigh
  have hrank : p.rank ≤ q.rank := Int.ofNat_le.mp h
  refine ⟨_, _, ht, hu, ?_, ?_⟩
  · intro realPath reader request hn
    exact Request.detect_asking hrank hn
  · intro realPath options dir entries hn
    exact Playlist.ofEntries_asking hrank hn dir

/-- Of a stream, its index and an unrelated file only the last one is taken away: the stream is
rejected for its index at either level. -/
theorem Threshold.raise_filters_to_exact :
    let names := ["Movie.mkv", "Movie.sub", "MOVIE.idx", "a.srt"]
    let entries := names.map fun name => (⟨name, Path.ofText "/m", .primary, .file⟩ : Entry)
    let request := Request.standard (Path.ofText "/m/Movie.mkv")
    let reader := Reader.ofFiles (Path.ofText "/m") names
    let detection (t : Threshold) :=
      ((request.asking t).detect (fun _ => none) reader Order.ascii).value
    let playlist (t : Threshold) := (Playlist.ofEntries (fun _ => none) Order.ascii
      (ListingOptions.standard.asking t) (Path.ofText "/m") entries).value
    ofLevel 1 = .ok (.atLeast .matchNone) ∧ ofLevel 4 = .ok (.atLeast .matchAll) ∧
      detection (.atLeast .matchAll) =
        (detection (.atLeast .matchNone)).map (Detection.above 4) ∧
      playlist (.atLeast .matchAll) = (playlist (.atLeast .matchNone)).above 4 ∧
      (∃ i ∈ (playlist (.atLeast .matchNone)).items, ∃ c ∈ i.companions, c.path = "/m/a.srt") ∧
      ∃ i ∈ (playlist (.atLeast .matchAll)).items,
        i.companions = [⟨"/m/MOVIE.idx", .subtitle, .matchAll, none⟩] ∧
        i.rejected =
          [⟨"/m/Movie.sub", .subtitle, .matchAll, some (.pairedWithIndex "/m/MOVIE.idx")⟩] := by
  intro names entries request reader detection playlist
  obtain ⟨t, u, ht, hu, hdetect, hlist⟩ :=
    @raise_filters Order.ascii _ 1 4 (show (1 : Int) ≤ 1 by decide)
      (show (1 : Int) ≤ 4 by decide) (show (4 : Int) ≤ 4 by decide)
  obtain rfl : .atLeast .matchNone = t := Except.ok.inj ht
  obtain rfl : .atLeast .matchAll = u := Except.ok.inj hu
  have hplay : ⟨"Movie.mkv", Path.ofText "/m", .primary, .file⟩ ∈
      Playlist.playable ListingOptions.standard entries := by decide +kernel
  refine ⟨ht, hu, ?_, ?_, ?_, ?_⟩
  · exact hdetect _ _ _ (Reader.isFaithful_ofFiles (by decide)).hasStepNames
  · exact hlist _ _ _ _ (by decide)
  · refine ⟨_, Playlist.mem_items.mpr ⟨_, hplay, rfl⟩,
      ⟨"/m/a.srt", .subtitle, .matchNone, none⟩, ?_, rfl⟩
    exact Companion.mem_kept.mpr (by decide +kernel)
  · refine ⟨_, Playlist.mem_items.mpr ⟨_, hplay, rfl⟩, ?_, ?_⟩
    · decide +kernel
    · decide +kernel

end TrackFinder
