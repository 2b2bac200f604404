import TrackFinder.Proofs.Path.Normal
import TrackFinder.Proofs.Path.Parent
import TrackFinder.Proofs.Text.Utf8

/-! What is joined to a directory are further steps, unless it is a path from the root. A name is
one more step, which tells the path from all others. -/
namespace TrackFinder.Path

variable {dir dir' name name' path : Path}

/-- The steps that a path takes below another one. -/
def below (path : Path) : List Component := path.segments.filterMap step?

theorem join_of_absolute (h : name.bytes.head? = some slash) : dir.join name = name := by
  simp [join, h]

/-- The last slash of a directory may be missing or not. -/
theorem segments_join (hd : dir.bytes ≠ []) (hn : name.bytes.head? ≠ some slash) :
    ∃ first rest rest', dir.segments = first :: rest ∧
      (dir.join name).segments = first :: (rest' ++ name.segments) ∧
      rest.filterMap step? = rest'.filterMap step? := by
  have hrelative : ¬ (name.bytes.head? = some slash || dir.bytes = []) := by simp [hd, hn]
  unfold join
  rw [if_neg hrelative]
  by_cases hlast : dir.bytes.getLast? = some slash
  · obtain ⟨front, hfront⟩ := List.getLast?_eq_some_iff.mp hlast
    obtain ⟨first, rest, hsegments⟩ := exists_segments ⟨front⟩
    refine ⟨first, rest ++ [[]], rest, ?_, ?_, ?_⟩
    · rw [segments, hfront, List.splitOn_append_cons_self]
      exact congrArg (· ++ [[]]) hsegments
    · rw [if_pos hlast, segments, hfront, List.append_assoc, List.singleton_append,
        List.splitOn_append_cons_self]
      exact congrArg (· ++ name.segments) hsegments
    · rw [List.filterMap_append]
      exact List.append_nil _
  · obtain ⟨first, rest, hsegments⟩ := exists_segments dir
    refine ⟨first, rest, rest, hsegments, ?_, rfl⟩
    rw [if_neg hlast, segments, List.splitOn_append_cons_self]
    exact congrArg (· ++ name.segments) hsegments

theorem components_join_below (hd : dir.bytes ≠ []) (hn : name.bytes.head? ≠ some slash) :
    (dir.join name).components = dir.components ++ name.below := by
  obtain ⟨first, rest, rest', hdir, hjoin, hsteps⟩ := segments_join hd hn
  have hne : first = [] → rest' ++ name.segments ≠ [] := by
    obtain ⟨first', rest'', hname⟩ := exists_segments name
    simp [hname]
  rw [components_of_segments hjoin hne, components_of_segments hdir (rest_ne_nil hd hdir),
    List.filterMap_append, hsteps, List.append_assoc, below]

/-- A path that does not start at the root comes to the steps that it takes below any other. -/
theorem collapsed_of_relative (h : path.bytes.head? ≠ some slash) :
    path.collapsed = path.below.foldl collapse [] := by
  obtain ⟨first, rest, hpath⟩ := exists_segments path
  by_cases hf : first = []
  · have hrest : rest = [] := Classical.byContradiction fun hr => h (head?_eq_slash hpath hf hr)
    have hidle : step? [] = none := rfl
    simp [collapsed, components, below, hpath, hf, hrest, hidle]
  · rw [collapsed, components_of_segments hpath fun hnil => absurd hnil hf, below, hpath, lead,
      if_neg hf]
    by_cases hdot : first = [dot]
    · rw [if_pos hdot, List.filterMap_cons_none (step?_of_isIdle (by rw [hdot]; rfl))]
      rfl
    · rw [if_neg hdot]
      cases hstep : step? first with
      | none => rw [List.filterMap_cons_none hstep]; rfl
      | some c => rw [List.filterMap_cons_some hstep]; rfl

theorem collapsed_join_below (dir : Path) (hn : name.bytes.head? ≠ some slash) :
    (dir.join name).collapsed = name.below.foldl collapse dir.collapsed := by
  by_cases hd : dir.bytes = []
  · have hjoin : dir.join name = name := by simp [join, hd]
    obtain rfl : dir = ⟨[]⟩ := congrArg Path.mk hd
    rw [hjoin]
    exact collapsed_of_relative hn
  · rw [collapsed, components_join_below hd hn, List.foldl_append]
    rfl

/-- A directory may be brought to its normal form before anything is joined to it. -/
theorem normalize_join (dir name : Path) :
    (dir.normalize.join name).normalize = (dir.join name).normalize := by
  by_cases hn : name.bytes.head? = some slash
  · rw [join_of_absolute hn, join_of_absolute hn]
  · rw [normalize_inj, collapsed_join_below _ hn, collapsed_join_below _ hn, collapsed_normalize]

/-- Below a path without bytes a name is a path of its own, and a path without bytes has no
steps. -/
theorem components_join (dir : Path) (hn : (Component.name name.bytes).IsInner) :
    (dir.join name).components = dir.components ++ [.name name.bytes] := by
  by_cases hd : dir.bytes = []
  · obtain rfl : dir = ⟨[]⟩ := congrArg Path.mk hd
    simp only [join, decide_true, Bool.or_true, if_true]
    exact components_name hn
  · have hrelative : name.bytes.head? ≠ some slash :=
      fun h => hn.noSlash (List.mem_of_head? h)
    have hsegments : name.segments = [name.bytes] := List.splitOn_eq_singleton hn.noSlash
    have hstep : step? name.bytes = some (.name name.bytes) := hn.reads
    rw [components_join_below hd hrelative, below, hsegments, List.filterMap_cons_some hstep]
    rfl

theorem fileName?_join (dir : Path) (hn : (Component.name name.bytes).IsInner) :
    (dir.join name).fileName? = some name.bytes := by
  simp [fileName?, components_join dir hn]

theorem collapsed_join (dir : Path) (hn : (Component.name name.bytes).IsInner) :
    (dir.join name).collapsed = .name name.bytes :: dir.collapsed := by
  rw [collapsed, components_join dir hn, List.foldl_append]
  rfl

/-- Files of different names or in different directories have different paths. -/
theorem normalize_join_inj (hn : (Component.name name.bytes).IsInner)
    (hn' : (Component.name name'.bytes).IsInner) :
    (dir.join name).normalize = (dir'.join name').normalize ↔
      dir.normalize = dir'.normalize ∧ name = name' := by
  rw [normalize_inj, normalize_inj, collapsed_join dir hn, collapsed_join dir' hn']
  obtain ⟨bytes⟩ := name
  obtain ⟨bytes'⟩ := name'
  simp [and_comm]

theorem isName_ofText {name : String} :
    IsName (ofText name).bytes ↔ name ≠ "" ∧ '/' ∉ name.toList ∧ name ≠ "." ∧ name ≠ ".." := by
  have hbytes : ∀ text, (ofText name).bytes = (ofText text).bytes ↔ name = text :=
    fun text => Utf8.encode_injective.eq_iff
  have hslash : slash ∈ (ofText name).bytes ↔ '/' ∈ name.toList :=
    @Utf8.mem_encode name '/' (by decide)
  constructor
  · intro h
    exact ⟨fun he => h.nonempty ((hbytes "").mpr he), mt hslash.mpr h.noSlash,
      fun he => h.notDot ((hbytes ".").mpr he), fun he => h.notDots ((hbytes "..").mpr he)⟩
  · rintro ⟨hempty, hs, hdot, hdots⟩
    exact ⟨fun he => hempty ((hbytes "").mp he), fun he => hdot ((hbytes ".").mp he),
      fun he => hdots ((hbytes "..").mp he), mt hslash.mp hs⟩

/-- The bytes of a plain name are one step of a path. -/
theorem isInner_ofText {name : String} (hn : '/' ∉ name.toList) (hempty : name ≠ "")
    (hdot : name ≠ ".") (hdots : name ≠ "..") : (Component.name (ofText name).bytes).IsInner :=
  isInner_name.mpr (isName_ofText.mpr ⟨hempty, hn, hdot, hdots⟩)

end TrackFinder.Path
