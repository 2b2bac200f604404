import TrackFinder.Proofs.Companion.Gather
import TrackFinder.Proofs.FileName
import TrackFinder.Proofs.Text.Utf8

/-! A companion is found by its name and settled by its path. Both tell the same of it, since the
path ends in the name. -/
namespace TrackFinder

variable {realPath : Path → Option Path} {request : Request} {media : FileName} {entry e : Entry}
  {c d : Companion} {path : String}

theorem Path.join_ofText (dir : Path) (name : String) :
    (dir.join (ofText name)).bytes = Utf8.encode name ∨
      ∃ front, (dir.join (ofText name)).bytes = front ++ Utf8.encode ("/" ++ name) := by
  have hslash : Utf8.encode ("/" ++ name) = slash :: Utf8.encode name := Utf8.encode_append "/" name
  unfold join
  split
  · exact Or.inl rfl
  · right
    rw [hslash]
    split
    · rename_i hlast
      obtain ⟨front, hfront⟩ := List.getLast?_eq_some_iff.mp hlast
      exact ⟨front, by simp [hfront, ofText]⟩
    · exact ⟨dir.bytes, rfl⟩

namespace Entry

/-- What may stand in front of a name in a path: nothing, or a directory and a slash. -/
def IsFront (front : String) : Prop := front = "" ∨ ∃ dir, front = dir ++ "/"

/-- The path of an entry is its name, alone or behind a slash. -/
theorem text_path (h : entry.path.text? = some path) :
    ∃ front, IsFront front ∧ path = front ++ entry.name := by
  have he : Utf8.encode path = entry.path.bytes := Utf8.decode?_eq_some.mp h
  obtain hname | ⟨bytes, hname⟩ := Path.join_ofText entry.dir entry.name
  · refine ⟨"", Or.inl rfl, ?_⟩
    rw [String.empty_append]
    exact Utf8.encode_injective (he.trans hname)
  · obtain ⟨dir, hdir, -⟩ := Utf8.eq_append_of_encode (he.trans hname)
    exact ⟨dir ++ "/", Or.inr ⟨dir, rfl⟩, by rw [hdir, String.append_assoc]⟩

theorem name_ne_empty {showHidden : Bool} (h : ¬ entry.isSkipped showHidden) : entry.name ≠ "" := by
  intro he
  simp [isSkipped, he] at h

/-- What is read off the path of a companion is what the name of the entry says, as the path ends in
that name. -/
structure StandsFor (entry : Entry) (c : Companion) : Prop where
  path : entry.path.text? = some c.path
  fileName : c.fileName = entry.name
  extension : c.extension? = entry.name.extension?
  kindOfName : TrackKind.ofFileName? entry.name = some c.kind
  kindOfPath : TrackKind.ofFileName? c.path = some c.kind
  stem : ∃ front, IsFront front ∧ c.path = front ++ entry.name ∧
    c.stem? = some (front ++ entry.name.stem)

end Entry

namespace Companion

theorem slash_not_mem_fileName (c : Companion) : '/' ∉ c.fileName.toList := by
  unfold fileName
  cases hcut : Text.cutLast '/' c.path.toList with
  | none => exact Text.cutLast_eq_none.mp hcut
  | some cut =>
    rw [String.toList_ofList]
    exact (Text.cutLast_eq_some.mp hcut).2

/-- What follows the last slash of the path is the name. -/
theorem fileName_of_path (hn : '/' ∉ entry.name.toList) (h : entry.path.text? = some c.path) :
    c.fileName = entry.name := by
  unfold fileName
  obtain ⟨front, rfl | ⟨dir, rfl⟩, hpath⟩ := Entry.text_path h
  · rw [hpath, String.empty_append, Text.cutLast_eq_none.mpr hn]
  · have hcut : Text.cutLast '/' c.path.toList = some (dir.toList, entry.name.toList) :=
      Text.cutLast_eq_some.mpr ⟨by simp [hpath], hn⟩
    rw [hcut]
    exact String.ofList_toList

/-- A dot in the name comes after all dots of the directory. -/
theorem stem?_of_path {front extension : String} (hpath : c.path = front ++ entry.name)
    (he : entry.name.extension? = some extension) :
    c.stem? = some (front ++ entry.name.stem) := by
  obtain ⟨before, hcut, -⟩ := FileName.extension?_eq_some.mp he
  rw [stem?, hpath, String.toList_append, Text.cutLast_append hcut, Option.map_some, FileName.stem,
    hcut]
  simp [String.ofList_append]

end Companion

namespace Request

theorem path_ne_empty (h : request.companion? realPath media entry = some c) : c.path ≠ "" := by
  obtain ⟨hfit, path, kind, ht, hk, rfl⟩ := companion?_eq_some.mp h
  obtain ⟨front, -, hpath⟩ := Entry.text_path ht
  have hname := Entry.name_ne_empty hfit.shown
  simp [hpath, hname]

/-- A companion is found without a reason to reject it. -/
theorem rejection_of_companion? (h : request.companion? realPath media entry = some c) :
    c.rejection = none := by
  have hne := path_ne_empty h
  obtain ⟨hfit, path, kind, ht, hk, rfl⟩ := companion?_eq_some.mp h
  exact if_neg hne

theorem rejection_of_mem {entries : List Entry}
    (h : c ∈ entries.filterMap (request.companion? realPath media)) : c.rejection = none := by
  obtain ⟨e, -, hc⟩ := List.mem_filterMap.mp h
  exact rejection_of_companion? hc

/-- The path of a companion tells its kind. -/
theorem kind_of_companion? (h : request.companion? realPath media entry = some c) :
    TrackKind.ofFileName? c.path = some c.kind := by
  obtain ⟨hfit, path, kind, ht, hk, rfl⟩ := companion?_eq_some.mp h
  obtain ⟨front, -, hpath⟩ := Entry.text_path ht
  rw [Companion.path_found, Companion.kind_found, hpath,
    TrackKind.ofFileName?_append hfit.isTrack, hk]

theorem standsFor_of_companion? (hn : '/' ∉ entry.name.toList)
    (h : request.companion? realPath media entry = some c) : entry.StandsFor c := by
  have hkind := kind_of_companion? h
  obtain ⟨hfit, path, kind, ht, hk, rfl⟩ := companion?_eq_some.mp h
  have hname : (Companion.found path kind (request.priorityOf media entry)).fileName =
      entry.name := Companion.fileName_of_path hn ht
  obtain ⟨extension, he⟩ := TrackKind.exists_extension hfit.isTrack
  obtain ⟨front, hfront, hpath⟩ := Entry.text_path ht
  exact {
    path := ht
    fileName := hname
    extension := congrArg FileName.extension? hname
    kindOfName := hk
    kindOfPath := hkind
    stem := ⟨front, hfront, hpath, Companion.stem?_of_path hpath he⟩ }

end Request

end TrackFinder
