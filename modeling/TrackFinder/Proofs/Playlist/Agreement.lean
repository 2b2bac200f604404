import Mathlib.Data.List.Basic
import TrackFinder.Proofs.Playlist.Outcome
import TrackFinder.Proofs.Request.Media

/-! An item of a playlist has the companions that a search for its file alone would find. -/
namespace TrackFinder

variable {realPath : Path → Option Path} {reader : Reader} {collator : Collator}
  {options : ListingOptions} {dir : Path} {name media : FileName}
  {entries : List Entry} {entry : Entry} {playlist : Playlist} {i : Item} {mode : Mode}

namespace Request

variable {request : Request}

/-- The media file of a path joined to a directory in normal form lies in that directory. -/
theorem splitMedia_join (hdir : dir.normalize = dir)
    (hn : (Component.name (Path.ofText name).bytes).IsInner)
    (hmedia : request.media = dir.join (Path.ofText name)) :
    ∃ parent, request.splitMedia = .ok (parent, name) ∧ parent.normalize = dir := by
  have hname := Path.fileName?_join dir hn
  rw [← hmedia] at hname
  obtain ⟨parent, hs⟩ := exists_splitMedia hname
  have hsteps := collapsed_media hs
  rw [hmedia, Path.collapsed_join dir hn] at hsteps
  have hparent := Path.normalize_inj.mpr (List.cons.inj hsteps).2.symm
  exact ⟨parent, hs, hparent.trans hdir⟩

/-- Beside the media file all modes locate alike. -/
theorem companion?_mode (hl : entry.location = .primary) (mode : Mode) :
    { request with mode := mode }.companion? realPath media entry =
      request.companion? realPath media entry := by
  have hlocate : ∀ m : Mode, m.locate .primary = .primary := fun m => by cases m <;> rfl
  simp only [companion?, judge, hl, hlocate]

end Request

namespace Playlist

theorem filterMap_tracks_mode (hl : ∀ e ∈ entries, e.location = .primary) (path : Path)
    (media : FileName) (mode : Mode) :
    (tracks options entries).filterMap ((request options path).companion? realPath media) =
      entries.filterMap
        ({ request options path with mode := mode }.companion? realPath media) := by
  rw [filterMap_tracks]
  exact List.filterMap_congr fun e he => (Request.companion?_mode (hl e he) mode).symm

/-- The companions attached to a file are those that a search for it gathers. -/
theorem attached_eq_gathered (hr : reader.IsFaithful) (hdir : dir.normalize = dir)
    (hread : reader.found dir .primary = entries) (he : entry ∈ playable options entries)
    (hfile : entry.isDirectory = false) (hon : options.threshold ≠ .disabled) (mode : Mode) :
    ∃ parent,
      { request options entry.path with mode := mode }.splitMedia = .ok (parent, entry.name) ∧
      attached realPath options (tracks options entries) entry =
        { request options entry.path with mode := mode }.gathered realPath reader parent
          entry.name := by
  obtain ⟨hmem, hplayable⟩ := List.mem_filter.mp he
  have hfaithful : ∀ e ∈ entries, e.dir = dir ∧ e.location = .primary ∧ '/' ∉ e.name.toList := by
    rw [← hread]
    exact hr dir .primary
  obtain ⟨hd, -, hslash⟩ := hfaithful entry hmem
  have hshown : ¬ entry.isSkipped options.showHidden := by
    simp only [Bool.and_eq_true, Bool.not_eq_true'] at hplayable
    exact Bool.eq_false_iff.mp hplayable.1.1
  have hinner := Entry.isInner_name hslash hshown
  have hmedia : entry.path = dir.join (Path.ofText entry.name) := by rw [Entry.path, hd]
  obtain ⟨parent, hsplit, hparent⟩ := @Request.splitMedia_join dir entry.name
    (request options entry.path) hdir hinner hmedia
  refine ⟨parent, hsplit, ?_⟩
  have hoff : ¬ (entry.isDirectory || options.threshold = .disabled) := by simp [hfile, hon]
  have hsearched : { request options entry.path with mode := mode }.searched realPath parent =
      [(dir, .primary)] := by
    rw [Request.searched, hparent]
    rfl
  have hcontents : reader.contents [(dir, .primary)] = entries := by
    simp [Reader.contents, hread]
  rw [attached, if_neg hoff, hsplit, Request.gathered, hsearched, hcontents]
  exact filterMap_tracks_mode (fun e he => (hfaithful e he).2.1) _ _ _

/-- A search for an item that is no directory finds, in the same company, what the playlist says of
it. -/
theorem detect_item (hr : reader.IsFaithful) (hdir : dir.normalize = dir)
    (hlist : (ofDirectory realPath reader collator options dir).value = .ok playlist)
    (hi : i ∈ playlist.items) (hfile : i.isDirectory = false) (mode : Mode) :
    ∃ d, (Request.detect realPath reader collator
        ⟨i.path, [], options.threshold, options.showHidden, mode⟩).value = .ok d ∧
      d.candidates = i.companions ∧ d.rejected = i.rejected := by
  obtain ⟨entries, hread, rfl⟩ := value_ofDirectory_eq_ok.mp hlist
  have hfound : reader.found dir .primary = entries := by rw [Reader.found, hread]
  obtain ⟨e, he, rfl⟩ := mem_items.mp hi
  by_cases hoff : options.threshold = .disabled
  · refine ⟨_, Request.value_detect_disabled hoff, ?_, ?_⟩
    · simp [finished, attached, hoff, Detection.nothing]
    · simp [finished, attached, hoff, Detection.nothing]
  · obtain ⟨parent, hsplit, hattached⟩ := attached_eq_gathered hr hdir hfound he hfile hoff mode
    refine ⟨_, Request.value_detect hoff hsplit, ?_, ?_⟩
    · rw [finished, hattached]
      rfl
    · rw [finished, hattached]
      rfl

theorem detect_item_movie :
    ∃ playlist, ∃ i ∈ playlist.items,
      (ofDirectory (fun _ => none) (.ofFiles (Path.ofText "/m") ["Movie.mkv", "Movie.en.srt"])
        Order.ascii ⟨.standard, false, "", .collate, false⟩ (Path.ofText "/m")).value =
          .ok playlist ∧
      i.name = "Movie.mkv" ∧ i.isDirectory = false ∧
      ∃ d, (Request.detect (fun _ => none)
          (.ofFiles (Path.ofText "/m") ["Movie.mkv", "Movie.en.srt"]) Order.ascii
          ⟨i.path, [], .standard, false, .sidecar⟩).value = .ok d ∧
        d.candidates = i.companions ∧ d.rejected = i.rejected := by
  have hplay : ⟨"Movie.mkv", Path.ofText "/m", .primary, .file⟩ ∈
      playable ⟨.standard, false, "", .collate, false⟩
        [⟨"Movie.mkv", Path.ofText "/m", .primary, .file⟩,
          ⟨"Movie.en.srt", Path.ofText "/m", .primary, .file⟩] := by decide
  have hlist := (@value_ofDirectory_eq_ok (fun _ => none)
    (.ofFiles (Path.ofText "/m") ["Movie.mkv", "Movie.en.srt"]) Order.ascii
    ⟨.standard, false, "", .collate, false⟩ (Path.ofText "/m") _).mpr ⟨_, rfl, rfl⟩
  refine ⟨_, _, mem_items.mpr ⟨_, hplay, rfl⟩, hlist, rfl, rfl, ?_⟩
  exact detect_item (Reader.isFaithful_ofFiles (by decide)) rfl hlist
    (mem_items.mpr ⟨_, hplay, rfl⟩) rfl .sidecar

end Playlist

end TrackFinder
