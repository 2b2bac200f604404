import TrackFinder.Detection
import TrackFinder.Proofs.Companion.Paths
import TrackFinder.Proofs.Companion.Verdict
import TrackFinder.Proofs.Order.Stable

/-! What a search comes to, without the log of how it came to it. -/
namespace TrackFinder

variable {realPath : Path → Option Path} {reader : Reader} {collator : Collator}
  {request : Request} {dir : Path} {media : FileName}

namespace Companion

variable {all : List Companion} {c : Companion}

/-- The companions that stand in the company of the others, in their final order. -/
def kept (collator : Collator) (all : List Companion) : List Companion :=
  Order.sort (Order.companions collator) ((all.map (verdict all)).filter fun c => !c.isRejected)

/-- The companions that give way, in their final order. -/
def dropped (collator : Collator) (all : List Companion) : List Companion :=
  Order.sort (Order.companions collator) ((all.map (verdict all)).filter isRejected)

@[simp] theorem kept_nil (collator : Collator) : kept collator [] = [] := by
  simp [kept, Order.sort]

@[simp] theorem dropped_nil (collator : Collator) : dropped collator [] = [] := by
  simp [dropped, Order.sort]

theorem mem_kept : c ∈ kept collator all ↔ c ∈ all.map (verdict all) ∧ ¬ c.isRejected := by
  simp [kept, Order.mem_sort, List.mem_filter]

theorem mem_dropped : c ∈ dropped collator all ↔ c ∈ all.map (verdict all) ∧ c.isRejected := by
  simp [dropped, Order.mem_sort, List.mem_filter]

theorem value_conclude (collator : Collator) (all : List Companion) :
    (conclude collator all).value = (kept collator all, dropped collator all) := by
  simp only [conclude, Run.value_bind, value_settle, split, List.partition_eq_filter_filter,
    Run.value_pure, kept, dropped, Function.comp_def, Bool.not_not]

end Companion

namespace Request

/-- The directories that a search goes through when the media file lies in `dir`. -/
def searched (realPath : Path → Option Path) (request : Request) (dir : Path) :
    List (Path × Location) :=
  (dir.normalize, .primary) ::
    extraDirectories realPath dir.normalize [dir.normalize.resolve realPath] request.searchPaths

theorem directories_eq (hs : request.splitMedia = .ok (dir, media)) :
    request.directories realPath = .ok (request.searched realPath dir) := by
  rw [directories, hs]
  rfl

/-- The companions that the searched directories hold, in the order scanned. -/
def gathered (realPath : Path → Option Path) (reader : Reader) (request : Request) (dir : Path)
    (media : FileName) : List Companion :=
  (reader.contents (request.searched realPath dir)).filterMap (request.companion? realPath media)

theorem mem_gathered {c : Companion} :
    c ∈ request.gathered realPath reader dir media ↔
      ∃ e ∈ reader.contents (request.searched realPath dir),
        request.companion? realPath media e = some c := List.mem_filterMap

theorem rejection_of_mem_gathered {c : Companion}
    (h : c ∈ request.gathered realPath reader dir media) : c.rejection = none :=
  rejection_of_mem h

theorem value_detect_disabled (hoff : request.threshold = .disabled) :
    (request.detect realPath reader collator).value = .ok (.nothing request.media) := by
  rw [detect, if_pos hoff]
  rfl

theorem value_detect_error {error : Error} (hon : request.threshold ≠ .disabled)
    (hs : request.splitMedia = .error error) :
    (request.detect realPath reader collator).value = .error error := by
  rw [detect, if_neg hon, directories, hs]
  rfl

theorem value_detect (hon : request.threshold ≠ .disabled)
    (hs : request.splitMedia = .ok (dir, media)) :
    (request.detect realPath reader collator).value =
      .ok ⟨request.media, Companion.kept collator (request.gathered realPath reader dir media),
        Companion.dropped collator (request.gathered realPath reader dir media),
        reader.faults (request.searched realPath dir)⟩ := by
  simp only [detect, if_neg hon, directories_eq hs, Run.value_bind, value_gather hon hs,
    Companion.value_conclude, Run.value_pure, Scan.entries, Scan.start, List.nil_append, gathered]

theorem value_detect_eq_ok {detection : Detection} :
    (request.detect realPath reader collator).value = .ok detection ↔
      (request.threshold = .disabled ∧ detection = .nothing request.media) ∨
        request.threshold ≠ .disabled ∧ ∃ dir media, request.splitMedia = .ok (dir, media) ∧
          detection = ⟨request.media,
            Companion.kept collator (request.gathered realPath reader dir media),
            Companion.dropped collator (request.gathered realPath reader dir media),
            reader.faults (request.searched realPath dir)⟩ := by
  constructor
  · intro hd
    by_cases hoff : request.threshold = .disabled
    · rw [value_detect_disabled hoff] at hd
      cases hd
      exact Or.inl ⟨hoff, rfl⟩
    · right
      cases hs : request.splitMedia with
      | error error =>
        rw [value_detect_error hoff hs] at hd
        cases hd
      | ok parts =>
        rw [value_detect hoff hs] at hd
        cases hd
        exact ⟨hoff, _, _, rfl, rfl⟩
  · rintro (⟨hoff, rfl⟩ | ⟨hon, dir, media, hs, rfl⟩)
    · exact value_detect_disabled hoff
    · exact value_detect hon hs

end Request

end TrackFinder
