import TrackFinder.Request
import TrackFinder.Proofs.Path.Ending

/-! The media file is its name in its directory, however its path is spelled. A path has no such
parts only if it is empty or does not end in a name of text. -/
namespace TrackFinder

variable {request : Request} {dir : Path} {media : FileName}

namespace Request

theorem exists_splitMedia (h : request.media.fileName? = some (Path.ofText media).bytes) :
    ∃ dir, request.splitMedia = .ok (dir, media) := by
  obtain ⟨parent, hparent, -⟩ := Path.exists_parent h
  have hempty : ¬ request.media.isEmpty := by
    intro hempty
    have hnil : request.media = ⟨[]⟩ := congrArg Path.mk (Path.isEmpty_iff.mp hempty)
    rw [hnil] at h
    cases h
  have hdecode : Utf8.decode? (Path.ofText media).bytes = some media := Utf8.decode?_eq_some.mpr rfl
  rw [splitMedia, if_neg hempty, h, hparent]
  simp only [Option.bind_some, hdecode]
  exact ⟨_, rfl⟩

/-- A path without bytes stands for the directory `.`, and both come to no step. -/
theorem collapsed_parent (parent : Path) :
    (if parent.isEmpty then Path.ofText "." else parent).collapsed = parent.collapsed := by
  split
  · rename_i hempty
    obtain rfl : parent = ⟨[]⟩ := congrArg Path.mk (Path.isEmpty_iff.mp hempty)
    rfl
  · rfl

/-- The media path is split into its last step, which is text, and the path above it. -/
theorem parts_of_splitMedia (hs : request.splitMedia = .ok (dir, media)) :
    request.media.fileName? = some (Path.ofText media).bytes ∧
      ∃ parent, request.media.parent? = some parent ∧
        dir = if parent.isEmpty then Path.ofText "." else parent := by
  unfold splitMedia at hs
  split at hs
  · cases hs
  · split at hs
    · rename_i name parent hname hparent
      cases hs
      obtain ⟨bytes, hfile, hdecode⟩ := Option.bind_eq_some_iff.mp hname
      have hbytes : (Path.ofText media).bytes = bytes := Utf8.decode?_eq_some.mp hdecode
      exact ⟨hbytes ▸ hfile, parent, hparent, rfl⟩
    · cases hs

/-- The steps of the media path are those of its directory, and then its name. -/
theorem collapsed_media (hs : request.splitMedia = .ok (dir, media)) :
    request.media.collapsed = .name (Path.ofText media).bytes :: dir.collapsed := by
  obtain ⟨hfile, parent, hparent, rfl⟩ := parts_of_splitMedia hs
  obtain ⟨parent', hparent', hsteps⟩ := Path.exists_parent hfile
  obtain rfl : parent = parent' := Option.some.inj (hparent.symm.trans hparent')
  rw [collapsed_parent, Path.collapsed, hsteps, List.foldl_append]
  rfl

theorem dir_ne_nil (hs : request.splitMedia = .ok (dir, media)) : dir.bytes ≠ [] := by
  obtain ⟨-, parent, -, rfl⟩ := parts_of_splitMedia hs
  split
  · decide
  · rename_i hne
    exact mt Path.isEmpty_iff.mpr hne

theorem normalize_media (hs : request.splitMedia = .ok (dir, media)) :
    (dir.join (Path.ofText media)).normalize = request.media.normalize := by
  have hname := (Path.fileName?_eq_some_iff.mp (parts_of_splitMedia hs).1).1
  rw [Path.normalize_inj, collapsed_media hs,
    Path.collapsed_join dir (Path.isInner_name.mpr hname)]

theorem splitMedia_of_empty (h : request.media.bytes = []) :
    request.splitMedia = .error .emptyPath := by
  rw [splitMedia, if_pos (Path.isEmpty_iff.mpr h)]

theorem splitMedia_of_lacksName (hne : request.media.bytes ≠ []) (h : request.media.LacksName) :
    request.splitMedia = .error (.noFileName request.media) := by
  have hname : request.media.fileName?.bind Utf8.decode? = none := by
    rcases h with hnone | ⟨last, hn, hend, htext⟩
    · rw [Path.fileName?_of_isNameless hnone, Option.bind_none]
    · rw [Path.fileName?_of_endsIn hn hend, Option.bind_some, htext]
  rw [splitMedia, if_neg (mt Path.isEmpty_iff.mp hne), hname]

theorem exists_parts (h : ¬ request.media.LacksName) :
    ∃ dir media, request.splitMedia = .ok (dir, media) := by
  rcases Path.exists_ending request.media with hnone | ⟨last, hn, hend⟩
  · exact absurd (Or.inl hnone) h
  cases hdecode : Utf8.decode? last with
  | none => exact absurd (Or.inr ⟨last, hn, hend, hdecode⟩) h
  | some media =>
    have hfile := Path.fileName?_of_endsIn hn hend
    rw [← Utf8.decode?_eq_some.mp hdecode] at hfile
    obtain ⟨dir, hs⟩ := exists_splitMedia hfile
    exact ⟨dir, media, hs⟩

/-- A media path is split into its directory and its name, a plain one, which lead where the path
leads, unless it is empty or does not end in a name of text; each has an error of its own. -/
theorem splitMedia_exact (request : Request) :
    (request.splitMedia = .error .emptyPath ↔ request.media.bytes = []) ∧
    (request.splitMedia = .error (.noFileName request.media) ↔
      request.media.bytes ≠ [] ∧ request.media.LacksName) ∧
    (request.media.bytes ≠ [] ∧ ¬ request.media.LacksName ↔
      ∃ dir name, request.splitMedia = .ok (dir, name) ∧
        name ≠ "" ∧ '/' ∉ name.toList ∧ name ≠ "." ∧ name ≠ ".." ∧
        request.media.EndsIn (Path.ofText name).bytes ∧ dir.bytes ≠ [] ∧
        (dir.join (Path.ofText name)).normalize = request.media.normalize) := by
  by_cases hempty : request.media.bytes = []
  · simp [splitMedia_of_empty hempty, hempty]
  by_cases hlacks : request.media.LacksName
  · simp [splitMedia_of_lacksName hempty hlacks, hempty, hlacks]
  · obtain ⟨dir, name, hs⟩ := exists_parts hlacks
    obtain ⟨hn, hend⟩ := Path.fileName?_eq_some_iff.mp (parts_of_splitMedia hs).1
    obtain ⟨hne, hslash, hdot, hdots⟩ := Path.isName_ofText.mp hn
    refine ⟨by simp [hs, hempty], by simp [hs, hlacks], iff_of_true ⟨hempty, hlacks⟩ ?_⟩
    exact ⟨dir, name, hs, hne, hslash, hdot, hdots, hend, dir_ne_nil hs, normalize_media hs⟩

/-- A step up before the name stays in the directory; what is idle behind the name is dropped. -/
example :
    splitMedia ⟨Path.ofText "a/../b.mkv/./", [], .disabled, false, .sidecar⟩ =
      .ok (Path.ofText "a/..", "b.mkv") := by
  rfl

end Request

/-- The name of a listed entry is one step of a path. -/
theorem Entry.isInner_name {entry : Entry} {showHidden : Bool} (hn : '/' ∉ entry.name.toList)
    (h : ¬ entry.isSkipped showHidden) :
    (Component.name (Path.ofText entry.name).bytes).IsInner := by
  simp only [isSkipped, Bool.or_eq_true, beq_iff_eq, not_or] at h
  obtain ⟨⟨⟨hempty, hdot⟩, hdots⟩, -⟩ := h
  exact Path.isInner_ofText hn hempty hdot hdots

end TrackFinder
