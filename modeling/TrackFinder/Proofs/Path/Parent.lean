import TrackFinder.Proofs.Path.Components

/-! A path that ends in a name is its parent and then that name. -/
namespace TrackFinder.Path

variable {path : Path} {first segment last bytes : List UInt8}
  {rest middle segments : List (List UInt8)}

/-- The step that the first segment stands for. Nothing in front of a slash is the root. -/
def lead (first : List UInt8) : List Component :=
  if first = [] then [.root] else if first = [dot] then [.here] else (step? first).toList

theorem components_of_segments (h : path.segments = first :: rest)
    (hne : first = [] → rest ≠ []) : path.components = lead first ++ rest.filterMap step? := by
  simp only [components, lead, h]
  by_cases hf : first = []
  · simp [hf, hne hf]
  · by_cases hdot : first = [dot] <;> simp [hf, hdot]

/-- Joined segments come apart again. -/
theorem segments_ofSegments (h : ∀ s ∈ segments, slash ∉ s) (hne : segments ≠ []) :
    (ofSegments segments).segments = segments := List.splitOn_intercalate slash h hne

/-- A path that is spelled has a step or a slash. -/
theorem rest_ne_nil (hpath : path.bytes ≠ []) (h : path.segments = first :: rest)
    (hf : first = []) : rest ≠ [] := by
  intro hr
  have hbytes : [slash].intercalate path.segments = path.bytes := List.intercalate_splitOn slash
  rw [h, hf, hr] at hbytes
  exact hpath hbytes.symm

theorem step?_of_isIdle (h : isIdle segment) : step? segment = none := if_pos h

/-- Idle segments are no steps. -/
theorem filterMap_trimIdle (segments : List (List UInt8)) :
    (trimIdle segments).filterMap step? = segments.filterMap step? := by
  have hidle : (segments.reverse.takeWhile isIdle).filterMap step? = [] := by
    apply List.filterMap_eq_nil_iff.mpr
    intro s hs
    exact step?_of_isIdle (List.all_eq_true.mp List.all_takeWhile s hs)
  have hparts := congrArg (List.filterMap step?)
    (List.takeWhile_append_dropWhile (p := isIdle) (l := segments.reverse))
  rw [List.filterMap_append, hidle, List.nil_append, List.filterMap_reverse] at hparts
  rw [trimIdle, List.filterMap_reverse, hparts, List.reverse_reverse]

theorem mem_of_mem_trimIdle (h : segment ∈ trimIdle segments) : segment ∈ segments := by
  have hsub : (segments.reverse.dropWhile isIdle).Sublist segments.reverse :=
    List.dropWhile_sublist isIdle
  exact List.mem_reverse.mp (hsub.subset (List.mem_reverse.mp h))

/-- What is left of segments without idle ones at their end does not end in one. -/
theorem isIdle_of_trimIdle (h : trimIdle segments = middle ++ [last]) : isIdle last = false := by
  have hhead := List.head?_dropWhile_not isIdle segments.reverse
  have hreverse : segments.reverse.dropWhile isIdle = last :: middle.reverse := by
    rw [← List.reverse_reverse (segments.reverse.dropWhile isIdle), ← trimIdle, h]
    simp
  rwa [hreverse] at hhead

theorem exists_step (h : isIdle segment = false) : ∃ c, step? segment = some c := by
  by_cases hup : segment = [dot, dot]
  · exact ⟨.up, by rw [hup]; rfl⟩
  · exact ⟨.name segment, by simp [step?, h, hup]⟩

/-- The last segment that counts is a step, after the steps of those in the middle. -/
theorem splitEnd?_eq_some (h : path.splitEnd? = some (first, middle, last)) :
    ∃ rest c, path.segments = first :: rest ∧
      rest.filterMap step? = middle.filterMap step? ++ [c] ∧ ∀ s ∈ middle, s ∈ rest := by
  obtain ⟨first', rest, hpath⟩ := exists_segments path
  unfold splitEnd? at h
  rw [hpath] at h
  dsimp only at h
  cases hrest : (trimIdle rest).reverse with
  | nil => simp [hrest] at h
  | cons last' middle' =>
    simp only [hrest, Option.some.injEq, Prod.mk.injEq] at h
    obtain ⟨rfl, rfl, rfl⟩ := h
    have htrim : trimIdle rest = middle'.reverse ++ [last'] := by
      rw [← List.reverse_reverse (trimIdle rest), hrest, List.reverse_cons]
    obtain ⟨c, hc⟩ := exists_step (isIdle_of_trimIdle htrim)
    refine ⟨rest, c, hpath, ?_, ?_⟩
    · rw [← filterMap_trimIdle rest, htrim, List.filterMap_append, filterMap_trimIdle]
      simp [hc]
    · intro s hs
      have hmem : s ∈ trimIdle rest := htrim ▸ List.mem_append_left _ (mem_of_mem_trimIdle hs)
      exact mem_of_mem_trimIdle hmem

theorem splitEnd?_eq_none (h : path.splitEnd? = none) (hpath : path.segments = first :: rest) :
    rest.filterMap step? = [] := by
  unfold splitEnd? at h
  rw [hpath] at h
  dsimp only at h
  cases hrest : (trimIdle rest).reverse with
  | nil => rw [← filterMap_trimIdle, List.reverse_eq_nil_iff.mp hrest, List.filterMap_nil]
  | cons last middle => simp [hrest] at h

/-- What comes before the last segment that counts is the parent. The root is spelled by a slash of
its own, every other parent by its segments. -/
theorem parent?_of_splitEnd? (h : path.splitEnd? = some (first, middle, last)) :
    ∃ parent rest, path.parent? = some parent ∧ parent.segments = first :: rest ∧
      (first = [] → rest ≠ []) ∧ rest.filterMap step? = middle.filterMap step? := by
  by_cases hroot : first = [] ∧ middle = []
  · obtain ⟨rfl, rfl⟩ := hroot
    exact ⟨⟨[slash]⟩, [[]], by simp [parent?, h], rfl, by simp, rfl⟩
  · refine ⟨ofSegments (first :: middle), middle, ?_, ?_, fun hf hm => hroot ⟨hf, hm⟩, rfl⟩
    · unfold parent?
      rw [h]
      split
      · rename_i heq
        simp only [Option.some.injEq, Prod.mk.injEq] at heq
        exact absurd ⟨heq.1, heq.2.1⟩ hroot
      · rename_i heq
        cases heq
        rfl
      · rename_i heq
        cases heq
    · obtain ⟨rest, c, hpath, -, hmiddle⟩ := splitEnd?_eq_some h
      refine segments_ofSegments ?_ (by simp)
      intro s hs
      apply slash_not_mem
      rw [hpath]
      rcases List.mem_cons.mp hs with rfl | hs
      · exact List.mem_cons_self ..
      · exact List.mem_cons_of_mem _ (hmiddle s hs)

/-- A path that starts with a slash has nothing in front of the first slash. -/
theorem first_eq_nil (hpath : path.segments = first :: rest)
    (h : path.bytes.head? = some slash) : first = [] := by
  obtain ⟨tail, htail⟩ := List.head?_eq_some_iff.mp h
  have hsegments : path.segments = [] :: tail.splitOn slash := by
    rw [segments, htail]
    exact List.splitOn_append_cons_self_of_not_mem List.not_mem_nil _
  rw [hpath, List.cons.injEq] at hsegments
  exact hsegments.1

/-- Nothing in front of the first slash makes a path start with it. -/
theorem head?_eq_slash (hpath : path.segments = first :: rest) (hf : first = []) (hr : rest ≠ []) :
    path.bytes.head? = some slash := by
  have hbytes : [slash].intercalate path.segments = path.bytes := List.intercalate_splitOn slash
  rw [← hbytes, hpath, hf, List.intercalate_cons_of_ne_nil hr]
  rfl

/-- A path whose last step is not its first segment is its parent and that step. -/
theorem components_of_splitEnd? (h : path.splitEnd? = some (first, middle, last)) :
    ∃ parent c, path.parent? = some parent ∧ path.components = parent.components ++ [c] := by
  obtain ⟨rest, c, hpath, hsteps, -⟩ := splitEnd?_eq_some h
  obtain ⟨parent, rest', hparent, hsegments, hne, hmiddle⟩ := parent?_of_splitEnd? h
  have hrest : rest ≠ [] := by
    rintro rfl
    simp at hsteps
  refine ⟨parent, c, hparent, ?_⟩
  rw [components_of_segments hpath fun _ => hrest, components_of_segments hsegments hne, hsteps,
    hmiddle, List.append_assoc]

theorem fileName?_eq_some :
    path.fileName? = some bytes ↔ path.components.getLast? = some (.name bytes) := by
  unfold fileName?
  split
  · rename_i hget
    simp [hget]
  · rename_i hno
    simpa using hno bytes

theorem lead_name (h : (lead first).getLast? = some (.name bytes)) :
    lead first = [.name bytes] ∧ first ≠ [] := by
  unfold lead at h ⊢
  split at h
  · cases h
  · split at h
    · cases h
    · rename_i hf hdot
      rw [if_neg hf, if_neg hdot]
      cases hc : step? first with
      | none => simp [hc] at h
      | some c => simpa [hc, hf] using h

/-- A path that ends in a name is its parent and that name. -/
theorem exists_parent (h : path.fileName? = some bytes) :
    ∃ parent, path.parent? = some parent ∧
      path.components = parent.components ++ [.name bytes] := by
  have hlast := fileName?_eq_some.mp h
  cases hend : path.splitEnd? with
  | some cut =>
    obtain ⟨parent, c, hparent, hall⟩ := components_of_splitEnd? hend
    rw [hall, List.getLast?_concat, Option.some.injEq] at hlast
    exact ⟨parent, hparent, by rw [hall, hlast]⟩
  | none =>
    -- The first segment is the only step, so it is the name, and there is nothing above it.
    obtain ⟨first, rest, hpath⟩ := exists_segments path
    have hspelled : path.bytes ≠ [] := by
      intro hb
      obtain rfl : path = ⟨[]⟩ := congrArg Path.mk hb
      cases h
    have hall := components_of_segments hpath (rest_ne_nil hspelled hpath)
    rw [splitEnd?_eq_none hend hpath, List.append_nil] at hall
    obtain ⟨hname, hf⟩ := lead_name (hall ▸ hlast)
    have hslash : path.bytes.head? ≠ some slash := fun hs => hf (first_eq_nil hpath hs)
    exact ⟨⟨[]⟩, by simp [parent?, hend, hslash, hspelled], hall.trans hname⟩

end TrackFinder.Path
