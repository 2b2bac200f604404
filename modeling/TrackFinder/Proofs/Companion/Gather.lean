import TrackFinder.Companion.Gather
import TrackFinder.Proofs.Scan

/-! A search gathers the companion that each scanned entry stands for, entry by entry. -/
namespace TrackFinder

namespace Companion

variable {path : String} {kind : TrackKind} {priority : Priority}

@[simp] theorem path_found : (found path kind priority).path = path := rfl

@[simp] theorem kind_found : (found path kind priority).kind = kind := rfl

@[simp] theorem priority_found : (found path kind priority).priority = priority := rfl

end Companion

namespace Request

variable {realPath : Path → Option Path} {request : Request} {media : FileName} {entry : Entry}
  {c : Companion}

/-- The priority of an entry beside a media file of the given name. In a listing every entry counts
as one that lies beside it. -/
def priorityOf (request : Request) (media : FileName) (entry : Entry) : Priority :=
  match request.mode with
  | .sidecar => Priority.ofEntry entry.name.key media.key entry.location
  | .listing => Priority.ofEntry entry.name.key media.key .primary

theorem ofEntry_locate :
    Priority.ofEntry entry.name.key media.key (request.mode.locate entry.location) =
      request.priorityOf media entry := by
  unfold priorityOf
  cases request.mode with
  | sidecar => rfl
  | listing => rfl

/-- What a listed entry has to be in order to be a companion. -/
structure Fits (realPath : Path → Option Path) (request : Request) (media : FileName)
    (entry : Entry) : Prop where
  shown : ¬ entry.isSkipped request.showHidden
  isTrack : (TrackKind.ofFileName? entry.name).isSome
  isFile : entry.type = .file
  accepted : request.threshold.accepts (request.priorityOf media entry)
  isOther : ¬ (entry.name = media ∧ entry.path.sameFile realPath request.media)
  isText : entry.path.text?.isSome

/-- The companion that an entry stands for, if it is one. -/
def companion? (realPath : Path → Option Path) (request : Request) (media : FileName)
    (entry : Entry) : Option Companion :=
  match request.judge media.key entry with
  | none => none
  | some (kind, priority) =>
    if entry.name = media && entry.path.sameFile realPath request.media then none
    else entry.path.text?.map fun path => .found path kind priority

theorem value_consider (found : List Companion) :
    (request.consider realPath media found entry).value =
      found ++ (request.companion? realPath media entry).toList := by
  unfold consider companion?
  cases request.judge media.key entry with
  | none => simp
  | some judged =>
    obtain ⟨kind, priority⟩ := judged
    dsimp only
    split
    · simp
    · cases entry.path.text? <;> simp

theorem foldl_consider (found : List Companion) (entries : List Entry) :
    entries.foldl (fun found e => (request.consider realPath media found e).value) found =
      found ++ entries.filterMap (request.companion? realPath media) := by
  induction entries generalizing found with
  | nil => simp
  | cons e entries ih =>
    rw [List.foldl_cons, ih, value_consider]
    cases h : request.companion? realPath media e <;> simp [h]

theorem value_gather {dir : Path} (hon : request.threshold ≠ .disabled)
    (hs : request.splitMedia = .ok (dir, media)) (scan : Scan) :
    (request.gather realPath scan).value =
      .ok (scan.entries.filterMap (request.companion? realPath media),
        ⟨scan.reader, [], [], scan.failures ++ scan.reader.faults scan.pending⟩) := by
  rw [gather, if_neg hon, hs]
  simp only [Run.value_bind, Run.value_pure, Scan.value_fold, foldl_consider, List.nil_append]

theorem judge_eq_some {kind : TrackKind} {priority : Priority} :
    request.judge media.key entry = some (kind, priority) ↔
      ¬ entry.isSkipped request.showHidden ∧ TrackKind.ofFileName? entry.name = some kind ∧
        priority = request.priorityOf media entry ∧
        request.threshold.accepts (request.priorityOf media entry) ∧ entry.type = .file := by
  unfold judge
  rw [ofEntry_locate]
  by_cases hs : entry.isSkipped request.showHidden
  · simp [hs]
  cases hk : TrackKind.ofFileName? entry.name with
  | none => simp [hs]
  | some k =>
    simp only [hs, Bool.false_eq_true, if_false, Entry.isFile, Bool.and_eq_true,
      beq_iff_eq]
    split
    · rename_i ha
      simp [ha, @eq_comm _ _ priority]
    · rename_i ha
      simp only [not_and] at ha
      simpa using fun _ _ h => ha h

theorem companion?_eq_some :
    request.companion? realPath media entry = some c ↔
      request.Fits realPath media entry ∧ ∃ path kind, entry.path.text? = some path ∧
        TrackKind.ofFileName? entry.name = some kind ∧
        c = .found path kind (request.priorityOf media entry) := by
  unfold companion?
  constructor
  · intro h
    split at h
    · cases h
    · rename_i kind priority hj
      obtain ⟨hs, hk, hp, ha, hf⟩ := judge_eq_some.mp hj
      split at h
      · cases h
      · rename_i ho
        obtain ⟨path, ht, hc⟩ := Option.map_eq_some_iff.mp h
        exact ⟨⟨hs, by simp [hk], hf, ha, by simpa using ho, by simp [ht]⟩,
          path, kind, ht, hk, by rw [← hp, hc]⟩
  · rintro ⟨hfit, path, kind, ht, hk, rfl⟩
    have hj := judge_eq_some.mpr ⟨hfit.shown, hk, rfl, hfit.accepted, hfit.isFile⟩
    have ho := hfit.isOther
    simp [hj, ht, ho]

end Request

end TrackFinder
