import TrackFinder.Companion.Conflict
import TrackFinder.Proofs.Companion.Paths

/-! Companions that share a stem were found by names with the same key, and so with the same
priority. -/
namespace TrackFinder

variable {realPath : Path → Option Path} {request : Request} {media : FileName} {entry e : Entry}
  {c d : Companion}

namespace Entry.StandsFor

theorem slash_not_mem (h : entry.StandsFor c) : '/' ∉ entry.name.toList := by
  rw [← h.fileName]
  exact c.slash_not_mem_fileName

theorem exists_extension (h : entry.StandsFor c) : ∃ x, entry.name.extension? = some x :=
  TrackKind.exists_extension (Option.isSome_of_eq_some h.kindOfName)

theorem slash_not_mem_stem (h : entry.StandsFor c) : '/' ∉ entry.name.stem.toList := by
  obtain ⟨x, hx⟩ := h.exists_extension
  obtain ⟨before, hcut, -⟩ := FileName.extension?_eq_some.mp hx
  rw [FileName.stem, hcut, String.toList_ofList]
  intro hmem
  exact h.slash_not_mem ((Text.cutLast_eq_some.mp hcut).1 ▸ List.mem_append_left _ hmem)

/-- What follows the last slash of the stem of the path is the stem of the name. -/
theorem afterLast_stem (h : entry.StandsFor c) :
    ∃ stem, c.stem? = some stem ∧
      Text.afterLast '/' (Ascii.fold stem.toList) = Ascii.fold entry.name.stem.toList := by
  have hslash : '/' ∉ Ascii.fold entry.name.stem.toList :=
    mt Ascii.slash_mem_fold.mp h.slash_not_mem_stem
  obtain ⟨front, hfront, -, hstem⟩ := h.stem
  refine ⟨_, hstem, ?_⟩
  obtain rfl | ⟨dir, rfl⟩ := hfront
  · rw [String.empty_append, Text.afterLast_of_not_mem hslash]
  · rw [String.toList_append, String.toList_append, List.append_assoc, Ascii.fold_append]
    exact Text.afterLast_append _ hslash

/-- Companions with one stem have names whose stems differ in case alone. -/
theorem fold_stem_eq (hc : entry.StandsFor c) (hd : e.StandsFor d) (h : c.sameStem d) :
    Ascii.fold entry.name.stem.toList = Ascii.fold e.name.stem.toList := by
  obtain ⟨s, hs, hlast⟩ := hc.afterLast_stem
  obtain ⟨s', hs', hlast'⟩ := hd.afterLast_stem
  simp only [Companion.sameStem, hs, hs', Ascii.same_iff] at h
  rw [← hlast, ← hlast', h]

theorem key_eq (hc : entry.StandsFor c) (hd : e.StandsFor d) (h : c.sameStem d) :
    entry.name.key = e.name.key :=
  FileName.key_congr (hc.fold_stem_eq hd h)

end Entry.StandsFor

/-- The location tells an unrelated file from one that is none, and nothing else. -/
theorem Priority.within_eq {p : Priority} {x y : Location} (hx : p.within x ≠ none)
    (hy : p.within y ≠ none) : p.within x = p.within y := by
  cases p with
  | none => cases x <;> cases y <;> first | rfl | contradiction
  | _ => rfl

/-- No threshold accepts what has no relation. -/
theorem Threshold.accepts_none (t : Threshold) : t.accepts .none = false := by
  cases t <;> rfl

namespace Request

theorem priority_ne_none (hfit : request.Fits realPath media entry) :
    request.priorityOf media entry ≠ .none := by
  intro h
  have ha := hfit.accepted
  rw [h, Threshold.accepts_none] at ha
  cases ha

/-- Companions with one stem have one priority. -/
theorem priority_eq_of_sameStem (hc : request.companion? realPath media entry = some c)
    (hd : request.companion? realPath media e = some d) (hn : '/' ∉ entry.name.toList)
    (hn' : '/' ∉ e.name.toList) (h : c.sameStem d) : c.priority = d.priority := by
  have hkey := (standsFor_of_companion? hn hc).key_eq (standsFor_of_companion? hn' hd) h
  obtain ⟨hfit, path, kind, ht, hk, hc⟩ := companion?_eq_some.mp hc
  obtain ⟨hfit', path', kind', ht', hk', hd⟩ := companion?_eq_some.mp hd
  have hx := priority_ne_none hfit
  have hy := priority_ne_none hfit'
  rw [hc, hd, Companion.priority_found, Companion.priority_found]
  rw [← ofEntry_locate, Priority.ofEntry] at hx hy
  rw [← ofEntry_locate, ← ofEntry_locate, Priority.ofEntry, Priority.ofEntry]
  rw [hkey] at hx ⊢
  exact Priority.within_eq hx hy

theorem priority_eq_of_mem {entries : List Entry} (hn : ∀ e ∈ entries, '/' ∉ e.name.toList) :
    ∀ c ∈ entries.filterMap (request.companion? realPath media),
      ∀ i ∈ entries.filterMap (request.companion? realPath media),
        i.sameStem c → i.priority = c.priority := by
  intro c hc i hi hstem
  obtain ⟨e, he, hc⟩ := List.mem_filterMap.mp hc
  obtain ⟨e', he', hi⟩ := List.mem_filterMap.mp hi
  exact priority_eq_of_sameStem hi hc (hn e' he') (hn e he) hstem

end Request

end TrackFinder
