import TrackFinder.Proofs.Path.Join

/-! What a path ends in, read off its bytes: a name, a step up, or no step at all. Slashes at the
end do not count, and neither do dots behind them. -/
namespace TrackFinder.Path

variable {path : Path} {front rest last : List UInt8} {c : Component}

/-- Slashes in a row, each of which may have a dot behind it. At the end of a path they stand for no
step. -/
inductive IsIdleEnd : List UInt8 → Prop where
  | nil : IsIdleEnd []
  | slash {rest : List UInt8} (h : IsIdleEnd rest) : IsIdleEnd (slash :: rest)
  | slashDot {rest : List UInt8} (h : IsIdleEnd rest) : IsIdleEnd (slash :: dot :: rest)

/-- Whether the idle end of a path has `last` in front of it, and that stands alone or behind a
slash. -/
def EndsIn (path : Path) (last : List UInt8) : Prop :=
  ∃ front rest, path.bytes = front ++ last ++ rest ∧ (front = [] ∨ [slash] <:+ front) ∧
    IsIdleEnd rest

/-- A path that does not end in a name: it has no step but the root, or none but dots, or it ends in
a step up. -/
inductive IsNameless (path : Path) : Prop where
  | root (h : IsIdleEnd path.bytes)
  | dots {rest : List UInt8} (hrest : IsIdleEnd rest) (h : path.bytes = dot :: rest)
  | up (h : path.EndsIn [dot, dot])

/-- Whether a path does not end in a name, or in one that is not text. -/
def LacksName (path : Path) : Prop :=
  path.IsNameless ∨ ∃ last, IsName last ∧ path.EndsIn last ∧ Utf8.decode? last = none

theorem IsIdleEnd.append {rest' : List UInt8} (h : IsIdleEnd rest) (h' : IsIdleEnd rest') :
    IsIdleEnd (rest ++ rest') := by
  induction h with
  | nil => exact h'
  | slash _ ih => exact .slash ih
  | slashDot _ ih => exact .slashDot ih

theorem splitOn_idleEnd (h : IsIdleEnd rest) (front : List UInt8) :
    ∃ idle, (∀ s ∈ idle, isIdle s) ∧
      (front ++ rest).splitOn slash = front.splitOn slash ++ idle := by
  induction h generalizing front with
  | nil => exact ⟨[], by simp, by simp⟩
  | @slash rest _ ih =>
    obtain ⟨idle, hidle, hsplit⟩ := ih []
    refine ⟨[] :: idle, List.forall_mem_cons.mpr ⟨rfl, hidle⟩, ?_⟩
    rw [List.splitOn_append_cons_self]
    exact congrArg (front.splitOn slash ++ ·) hsplit
  | @slashDot rest _ ih =>
    obtain ⟨idle, hidle, hsplit⟩ := ih [dot]
    refine ⟨[dot] :: idle, List.forall_mem_cons.mpr ⟨rfl, hidle⟩, ?_⟩
    rw [List.splitOn_append_cons_self]
    exact congrArg (front.splitOn slash ++ ·) hsplit

theorem filterMap_idle {idle : List (List UInt8)} (h : ∀ s ∈ idle, isIdle s) :
    idle.filterMap step? = [] :=
  List.filterMap_eq_nil_iff.mpr fun s hs => step?_of_isIdle (h s hs)

/-- Behind something an idle end adds no step. -/
theorem components_idleEnd (hne : front ≠ []) (h : IsIdleEnd rest) :
    components ⟨front ++ rest⟩ = components ⟨front⟩ := by
  obtain ⟨first, others, hfront⟩ := exists_segments ⟨front⟩
  obtain ⟨idle, hidle, hsplit⟩ := splitOn_idleEnd h front
  have hall : segments ⟨front ++ rest⟩ = first :: (others ++ idle) :=
    hsplit.trans (congrArg (· ++ idle) hfront)
  have hothers : first = [] → others ≠ [] := rest_ne_nil hne hfront
  have hothers' : first = [] → others ++ idle ≠ [] := fun hf =>
    List.append_ne_nil_of_left_ne_nil (hothers hf) idle
  rw [components_of_segments hall hothers', components_of_segments hfront hothers,
    List.filterMap_append, filterMap_idle hidle, List.append_nil]

/-- The last segment that is a step is the last step. -/
theorem getLast?_components (h : path.EndsIn last) (hs : slash ∉ last)
    (hstep : step? last = some c) : path.components.getLast? = some c := by
  obtain ⟨front, rest, hbytes, hfront, hrest⟩ := h
  have hne : last ≠ [] := by
    rintro rfl
    cases hstep
  have hsegments : segments ⟨last⟩ = [last] := List.splitOn_eq_singleton hs
  have hpath : path = ⟨front ++ last ++ rest⟩ := congrArg Path.mk hbytes
  rw [hpath, components_idleEnd (List.append_ne_nil_of_right_ne_nil front hne) hrest]
  rcases hfront with rfl | hslash
  · have hdot : last ≠ [dot] := by
      rintro rfl
      cases hstep
    have hall := components_of_segments hsegments fun hnil => absurd hnil hne
    rw [lead, if_neg hne, if_neg hdot, hstep] at hall
    rw [List.nil_append, hall]
    rfl
  · obtain ⟨before, rfl⟩ := hslash
    have hrelative : (⟨last⟩ : Path).bytes.head? ≠ some slash := fun h => hs (List.mem_of_head? h)
    have hjoin : join ⟨before ++ [slash]⟩ ⟨last⟩ = ⟨before ++ [slash] ++ last⟩ := by
      simp [join, hrelative]
    have hbelow : below ⟨last⟩ = [c] := by
      rw [below, hsegments, List.filterMap_cons_some hstep, List.filterMap_nil]
    have hall := @components_join_below ⟨before ++ [slash]⟩ ⟨last⟩ (by simp) hrelative
    rw [← hjoin, hall, hbelow, List.getLast?_concat]

theorem fileName?_of_endsIn (hn : IsName last) (h : path.EndsIn last) :
    path.fileName? = some last :=
  fileName?_eq_some.mpr (getLast?_components h hn.noSlash (isInner_name.mpr hn).reads)

theorem fileName?_of_isNameless (h : path.IsNameless) : path.fileName? = none := by
  cases h with
  | root h =>
    obtain ⟨idle, hidle, hsplit⟩ := splitOn_idleEnd h []
    have hsegments : path.segments = [] :: idle := hsplit
    by_cases hempty : idle = []
    · simp [fileName?, components, hsegments, hempty]
    · simp [fileName?, components, hsegments, hempty, filterMap_idle hidle]
  | @dots rest hrest h =>
    have hpath : path = ⟨[dot] ++ rest⟩ := congrArg Path.mk h
    rw [fileName?, hpath, components_idleEnd (by simp) hrest]
    rfl
  | up h =>
    rw [fileName?, getLast?_components h (by decide) rfl]

/-- What stands behind the last slash of a list, if it has one. -/
theorem exists_last (bytes : List UInt8) :
    ∃ front last, bytes = front ++ last ∧ (front = [] ∨ [slash] <:+ front) ∧ slash ∉ last := by
  cases hcut : Text.cutLast slash bytes with
  | none => exact ⟨[], bytes, rfl, Or.inl rfl, Text.cutLast_eq_none.mp hcut⟩
  | some cut =>
    obtain ⟨before, last⟩ := cut
    obtain ⟨hbytes, hs⟩ := Text.cutLast_eq_some.mp hcut
    exact ⟨before ++ [slash], last, by simp [hbytes], Or.inr (List.suffix_append _ _), hs⟩

/-- Every path has a longest idle end. -/
theorem exists_idleEnd (bytes : List UInt8) :
    ∃ front rest, bytes = front ++ rest ∧ IsIdleEnd rest ∧ ¬ [slash] <:+ front ∧
      ¬ [slash, dot] <:+ front := by
  induction hlength : bytes.length using Nat.strongRecOn generalizing bytes with
  | ind n ih =>
    by_cases hslash : [slash] <:+ bytes
    · obtain ⟨shorter, rfl⟩ := hslash
      obtain ⟨front, rest, rfl, hrest, hfront⟩ :=
        ih shorter.length (by simp [← hlength]) shorter rfl
      exact ⟨front, rest ++ [slash], by simp, hrest.append (.slash .nil), hfront⟩
    by_cases hdot : [slash, dot] <:+ bytes
    · obtain ⟨shorter, rfl⟩ := hdot
      obtain ⟨front, rest, rfl, hrest, hfront⟩ :=
        ih shorter.length (by simp [← hlength]) shorter rfl
      exact ⟨front, rest ++ [slash, dot], by simp, hrest.append (.slashDot .nil), hfront⟩
    · exact ⟨bytes, [], by simp, .nil, hslash, hdot⟩

/-- Every path ends in a name or is nameless. -/
theorem exists_ending (path : Path) :
    path.IsNameless ∨ ∃ last, IsName last ∧ path.EndsIn last := by
  obtain ⟨trunk, rest, hbytes, hrest, hslash, hdot⟩ := exists_idleEnd path.bytes
  obtain ⟨front, last, rfl, hfront, hs⟩ := exists_last trunk
  by_cases hnil : last = []
  · subst hnil
    rcases hfront with rfl | hfront
    · exact Or.inl (.root (by rwa [hbytes]))
    · exact absurd (by simpa using hfront) hslash
  by_cases hone : last = [dot]
  · subst hone
    rcases hfront with rfl | ⟨before, rfl⟩
    · exact Or.inl (.dots hrest hbytes)
    · exact absurd ⟨before, by simp⟩ hdot
  by_cases htwo : last = [dot, dot]
  · subst htwo
    exact Or.inl (.up ⟨front, rest, hbytes, hfront, hrest⟩)
  · exact Or.inr ⟨last, ⟨hnil, hone, htwo, hs⟩, front, rest, hbytes, hfront, hrest⟩

/-- The file name of a path is the name that it ends in. -/
theorem fileName?_eq_some_iff : path.fileName? = some last ↔ IsName last ∧ path.EndsIn last := by
  constructor
  · intro h
    rcases exists_ending path with hnone | ⟨last', hn, hend⟩
    · rw [fileName?_of_isNameless hnone] at h
      cases h
    · rw [fileName?_of_endsIn hn hend] at h
      cases h
      exact ⟨hn, hend⟩
  · rintro ⟨hn, hend⟩
    exact fileName?_of_endsIn hn hend

end TrackFinder.Path
