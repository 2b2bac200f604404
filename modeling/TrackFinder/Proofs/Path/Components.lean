import TrackFinder.Path.Normal
import TrackFinder.Proofs.Text.Cut

/-! The steps of a path, and the path of given steps. -/
namespace TrackFinder

/-- A step that stands for itself between slashes, as the root and a leading dot do not. -/
structure Component.IsInner (c : Component) : Prop where
  reads : Path.step? (Path.stepBytes c) = some c
  noSlash : Path.slash ∉ Path.stepBytes c

namespace Path

/-- A segment that names something. -/
structure IsName (segment : List UInt8) : Prop where
  nonempty : segment ≠ []
  notDot : segment ≠ [dot]
  notDots : segment ≠ [dot, dot]
  noSlash : slash ∉ segment

variable {path : Path} {first segment : List UInt8} {rest : List (List UInt8)}
  {steps : List Component} {c : Component}

theorem isEmpty_iff : path.isEmpty ↔ path.bytes = [] := List.isEmpty_iff

theorem exists_segments (path : Path) : ∃ first rest, path.segments = first :: rest :=
  List.exists_cons_of_ne_nil (List.splitOn_ne_nil slash path.bytes)

theorem slash_not_mem (h : segment ∈ path.segments) : slash ∉ segment :=
  fun hslash => Text.not_of_mem_splitOnP h slash hslash (beq_self_eq_true slash)

theorem isInner_of_step? (hs : slash ∉ segment) (h : step? segment = some c) : c.IsInner := by
  have hbytes : stepBytes c = segment := by
    unfold step? at h
    split at h
    · cases h
    · split at h
      · rename_i hdots
        cases h
        exact hdots.symm
      · cases h
        rfl
  constructor
  · rw [hbytes, h]
  · rw [hbytes]
    exact hs

theorem isInner_of_mem (h : path.segments = first :: rest) (hc : c ∈ rest.filterMap step?) :
    c.IsInner := by
  obtain ⟨segment, hmem, hstep⟩ := List.mem_filterMap.mp hc
  have hsegment : segment ∈ path.segments := h ▸ List.mem_cons_of_mem first hmem
  exact isInner_of_step? (slash_not_mem hsegment) hstep

/-- A path is a row of inner steps, behind a root or a dot or nothing. -/
theorem components_eq (path : Path) :
    ∃ lead steps, path.components = lead ++ steps ∧
      (lead = [] ∨ lead = [.root] ∨ lead = [.here]) ∧ ∀ c ∈ steps, c.IsInner := by
  obtain ⟨first, rest, h⟩ := exists_segments path
  have hinner : ∀ c ∈ rest.filterMap step?, c.IsInner := fun c hc => isInner_of_mem h hc
  rw [components, h]
  by_cases hf : first = []
  · by_cases hr : rest = []
    · exact ⟨[], [], by simp [hf, hr], Or.inl rfl, by simp⟩
    · exact ⟨[.root], _, by simp [hf, hr], Or.inr (Or.inl rfl), hinner⟩
  · by_cases hd : first = [dot]
    · exact ⟨[.here], _, by simp [hd], Or.inr (Or.inr rfl), hinner⟩
    · refine ⟨[], (step? first).toList ++ rest.filterMap step?, by simp [hf, hd], Or.inl rfl, ?_⟩
      intro c hc
      rcases List.mem_append.mp hc with hc | hc
      · have hsegment : first ∈ path.segments := h ▸ List.mem_cons_self ..
        exact isInner_of_step? (slash_not_mem hsegment) (Option.mem_toList.mp hc)
      · exact hinner c hc

theorem stepBytes_ne_nil (h : c.IsInner) : stepBytes c ≠ [] := by
  intro hb
  have hr := h.reads
  rw [hb] at hr
  cases hr

theorem stepBytes_ne_dot (h : c.IsInner) : stepBytes c ≠ [dot] := by
  intro hb
  have hr := h.reads
  rw [hb] at hr
  cases hr

theorem isInner_name : (Component.name segment).IsInner ↔ IsName segment := by
  constructor
  · intro h
    refine ⟨stepBytes_ne_nil h, stepBytes_ne_dot h, ?_, h.noSlash⟩
    rintro rfl
    cases h.reads
  · intro h
    have hidle : ¬ isIdle segment := by simp [isIdle, h.nonempty, h.notDot]
    exact ⟨by rw [stepBytes, step?, if_neg hidle, if_neg h.notDots], h.noSlash⟩

theorem isInner_up : Component.up.IsInner := ⟨by decide, by decide⟩

theorem filterMap_stepBytes (h : ∀ c ∈ steps, c.IsInner) :
    (steps.map stepBytes).filterMap step? = steps := by
  induction steps with
  | nil => rfl
  | cons c steps ih =>
    have ih := ih fun d hd => h d (List.mem_cons_of_mem c hd)
    rw [List.map_cons, List.filterMap_cons, (h c (List.mem_cons_self ..)).reads, ih]

theorem splitOn_stepBytes (h : ∀ c ∈ steps, c.IsInner) (hne : steps ≠ []) :
    ([slash].intercalate (steps.map stepBytes)).splitOn slash = steps.map stepBytes := by
  refine List.splitOn_intercalate slash ?_ (by simpa using hne)
  intro segment hs
  obtain ⟨c, hc, rfl⟩ := List.mem_map.mp hs
  exact (h c hc).noSlash

theorem components_ofSegments (h : ∀ c ∈ steps, c.IsInner) (hne : steps ≠ []) :
    (ofSegments (steps.map stepBytes)).components = steps := by
  cases steps with
  | nil => exact absurd rfl hne
  | cons c steps =>
    have hc := h c (List.mem_cons_self ..)
    have hsteps := filterMap_stepBytes fun d hd => h d (List.mem_cons_of_mem c hd)
    have hsegments : (ofSegments ((c :: steps).map stepBytes)).segments =
        stepBytes c :: steps.map stepBytes := splitOn_stepBytes h hne
    simp only [components, hsegments, if_neg (stepBytes_ne_nil hc), if_neg (stepBytes_ne_dot hc),
      hc.reads, hsteps, Option.toList_some, List.singleton_append]

theorem components_name {bytes : List UInt8} (h : (Component.name bytes).IsInner) :
    components ⟨bytes⟩ = [.name bytes] := by
  have hall : ∀ c ∈ [Component.name bytes], c.IsInner := by simpa using h
  have hsteps := components_ofSegments hall (by simp)
  simpa [ofSegments, stepBytes] using hsteps

theorem components_rooted (h : ∀ c ∈ steps, c.IsInner) :
    (ofComponents (.root :: steps)).components = .root :: steps := by
  have hsegments : (ofComponents (.root :: steps)).segments =
      [] :: ([slash].intercalate (steps.map stepBytes)).splitOn slash :=
    List.splitOn_append_cons_self_of_not_mem (List.not_mem_nil) _
  rw [components, hsegments]
  by_cases hne : steps = []
  · subst hne
    rfl
  · have hmap : steps.map stepBytes ≠ [] := by simpa using hne
    simp only [splitOn_stepBytes h hne, if_true, if_neg hmap, filterMap_stepBytes h]

end Path

end TrackFinder
