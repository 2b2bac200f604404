import TrackFinder.Proofs.Detection.Outcome
import TrackFinder.Proofs.Reads
import TrackFinder.Proofs.Request.Directories

/-! A search reads each of its directories once. One that cannot be read is reported and counts as
an empty one. -/
namespace TrackFinder

variable {realPath : Path → Option Path} {reader : Reader} {collator : Collator}
  {request : Request} {dir : Path} {media : FileName}

namespace Reader

/-- The reader for which a directory that cannot be read is empty. -/
def tolerant (reader : Reader) : Reader where
  entries dir location :=
    let listing := reader.entries dir location
    match listing.result with
    | .ok _ => listing
    | .error _ => ⟨listing.notes, .ok []⟩
  sorted := reader.sorted

theorem result_tolerant (reader : Reader) (dir : Path) (location : Location) :
    (reader.tolerant.entries dir location).result = .ok (reader.found dir location) := by
  unfold tolerant found
  dsimp only
  split <;> simp_all

theorem contents_tolerant (reader : Reader) (dirs : List (Path × Location)) :
    reader.tolerant.contents dirs = reader.contents dirs := by
  have hfound : ∀ dir location, reader.tolerant.found dir location = reader.found dir location := by
    intro dir location
    rw [found, result_tolerant]
  simp only [contents, hfound]

theorem faults_tolerant (reader : Reader) (dirs : List (Path × Location)) :
    reader.tolerant.faults dirs = [] := by
  apply List.filterMap_eq_nil_iff.mpr
  rintro ⟨dir, location⟩ -
  dsimp only
  unfold fault?
  rw [result_tolerant]

end Reader

namespace Companion

theorem reads_examine (others : List Companion) (c : Companion) :
    (examine others c).reads = [] := by
  unfold examine
  split
  · rfl
  · split <;> simp

theorem reads_settleFrom (examined rest : List Companion) :
    (settleFrom examined rest).reads = [] := by
  induction rest generalizing examined with
  | nil => rfl
  | cons c rest ih => rw [settleFrom, Run.reads_bind, reads_examine, ih, List.append_nil]

theorem reads_conclude (collator : Collator) (all : List Companion) :
    (conclude collator all).reads = [] := by
  simp [conclude, settle, reads_settleFrom]

end Companion

namespace Request

theorem reads_consider (found : List Companion) (entry : Entry) :
    (request.consider realPath media found entry).reads = [] := by
  unfold consider
  cases request.judge media.key entry with
  | none => rfl
  | some judged =>
    dsimp only
    split
    · rfl
    · cases entry.path.text? <;> simp

theorem reads_gather (hon : request.threshold ≠ .disabled)
    (hs : request.splitMedia = .ok (dir, media)) (scan : Scan) :
    (request.gather realPath scan).reads = scan.pending := by
  rw [gather, if_neg hon, hs]
  simp only [Run.reads_bind, Run.reads_pure, Scan.reads_fold reads_consider, List.append_nil]

theorem reads_detect_disabled (hoff : request.threshold = .disabled) :
    (request.detect realPath reader collator).reads = [] := by
  rw [detect, if_pos hoff]
  rfl

theorem reads_detect_error {error : Error} (hon : request.threshold ≠ .disabled)
    (hs : request.splitMedia = .error error) :
    (request.detect realPath reader collator).reads = [] := by
  rw [detect, if_neg hon, directories, hs]
  rfl

theorem reads_detect (hon : request.threshold ≠ .disabled)
    (hs : request.splitMedia = .ok (dir, media)) :
    (request.detect realPath reader collator).reads = request.searched realPath dir := by
  simp only [detect, if_neg hon, directories_eq hs, Run.reads_bind, reads_gather hon hs,
    value_gather hon hs, Companion.reads_conclude, Run.reads_log, Run.reads_pure, Scan.start,
    List.append_nil]

/-- A search that is turned off reads nothing and finds nothing. One for a media path without a name
fails before it reads. Any other reads the directories that it has to search, in order, and finds
what it would find if those that cannot be read were empty. It reports them with the reason, but for
further directories that do not exist. -/
theorem detect_unreadable (realPath : Path → Option Path) (reader : Reader) (collator : Collator)
    (request : Request) :
    (request.threshold = .disabled →
      (request.detect realPath reader collator).value = .ok (.nothing request.media) ∧
      (request.detect realPath reader collator).reads = []) ∧
    (∀ error, request.threshold ≠ .disabled → request.splitMedia = .error error →
      (request.detect realPath reader collator).value = .error error ∧
      (request.detect realPath reader collator).reads = []) ∧
    (∀ dir media, request.threshold ≠ .disabled → request.splitMedia = .ok (dir, media) →
      ∃ dirs detection, request.directories realPath = .ok dirs ∧
        (request.detect realPath reader collator).reads = dirs ∧ (dirs.map Prod.fst).Nodup ∧
        (request.detect realPath reader collator).value = .ok detection ∧
        (request.detect realPath reader.tolerant collator).value =
          .ok { detection with unreadable := [] } ∧
        detection.unreadable = reader.faults dirs) := by
  refine ⟨?_, ?_, ?_⟩
  · intro hoff
    exact ⟨value_detect_disabled hoff, reads_detect_disabled hoff⟩
  · intro error hon hs
    exact ⟨value_detect_error hon hs, reads_detect_error hon hs⟩
  · intro dir media hon hs
    refine ⟨_, _, directories_eq hs, reads_detect hon hs, nodup_directories _ _ _,
      value_detect hon hs, ?_, rfl⟩
    rw [value_detect hon hs, gathered, Reader.contents_tolerant, Reader.faults_tolerant]
    rfl

/-- The media file's directory cannot be read, `Subs` can, and `subs` does not exist. -/
theorem detect_unreadable_movie :
    let reader : Reader := .ofTable Reader.place
      [(Path.ofText "/m", .failed ⟨false, "permission denied", none⟩),
        (Path.ofText "/m/Subs", ⟨[], .ok [("Movie.srt", .file)]⟩)] false
    let request : Request := { standard (Path.ofText "/m/Movie.mkv") with
      searchPaths := ["./Subs", "./subs"] }
    let off : Request := { request with threshold := .disabled, media := Path.ofText "" }
    let nameless : Request := { request with media := Path.ofText "/m/.." }
    ((off.detect (fun _ => none) reader Order.ascii).value = .ok (.nothing off.media) ∧
      (off.detect (fun _ => none) reader Order.ascii).reads = []) ∧
    ((nameless.detect (fun _ => none) reader Order.ascii).value =
        .error (.noFileName nameless.media) ∧
      (nameless.detect (fun _ => none) reader Order.ascii).reads = []) ∧
    ∃ dirs detection, request.directories (fun _ => none) = .ok dirs ∧
      (request.detect (fun _ => none) reader Order.ascii).reads = dirs ∧
      (dirs.map Prod.fst).Nodup ∧
      (request.detect (fun _ => none) reader Order.ascii).value = .ok detection ∧
      (request.detect (fun _ => none) reader.tolerant Order.ascii).value =
        .ok { detection with unreadable := [] } ∧
      detection.unreadable = reader.faults dirs := by
  intro reader request off nameless
  have hsplit : request.splitMedia = .ok (Path.ofText "/m", "Movie.mkv") := rfl
  have herror : nameless.splitMedia = .error (.noFileName nameless.media) := rfl
  exact ⟨(detect_unreadable (fun _ => none) reader Order.ascii off).1 rfl,
    (detect_unreadable (fun _ => none) reader Order.ascii nameless).2.1 _ (by decide) herror,
    (detect_unreadable (fun _ => none) reader Order.ascii request).2.2 _ _ (by decide) hsplit⟩

end Request

end TrackFinder
