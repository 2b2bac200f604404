import TrackFinder.Proofs.Path.Components

/-! A normal form is its own normal form, and two of them are the same path only if they are spelled
the same. -/
namespace TrackFinder.Path

/-- Steps taken that collapse no further, the last one first. -/
inductive Settled : List Component → Prop where
  | start : Settled []
  | root : Settled [.root]
  | up {taken : List Component} (hs : Settled taken) (hup : collapse taken .up = .up :: taken) :
    Settled (.up :: taken)
  | name {taken : List Component} {bytes : List UInt8} (hs : Settled taken)
    (hn : (Component.name bytes).IsInner) : Settled (.name bytes :: taken)

variable {a b path : Path} {taken steps : List Component} {c : Component}
  {names : List (List UInt8)} {height : Nat}

theorem settled_collapse (h : Settled taken) (hc : c.IsInner) : Settled (collapse taken c) := by
  cases c with
  | root => cases hc.reads
  | here => cases hc.reads
  | name bytes => exact Settled.name h hc
  | up =>
    cases h with
    | start => exact Settled.up Settled.start rfl
    | root => exact Settled.root
    | up hs hup => exact Settled.up (Settled.up hs hup) rfl
    | name hs hn => exact hs

theorem settled_foldl (hs : Settled taken) (h : ∀ c ∈ steps, c.IsInner) :
    Settled (steps.foldl collapse taken) := by
  induction steps generalizing taken with
  | nil => exact hs
  | cons c steps ih =>
    have hc := settled_collapse hs (h c (List.mem_cons_self ..))
    exact ih hc fun d hd => h d (List.mem_cons_of_mem c hd)

/-- The steps that a path comes to, the last one first. -/
def collapsed (path : Path) : List Component := path.components.foldl collapse []

theorem normalize_eq (path : Path) : path.normalize = ofComponents path.collapsed.reverse := rfl

theorem settled_collapsed (path : Path) : Settled path.collapsed := by
  obtain ⟨lead, steps, heq, hlead, hsteps⟩ := components_eq path
  rw [collapsed, heq, List.foldl_append]
  rcases hlead with rfl | rfl | rfl
  · exact settled_foldl Settled.start hsteps
  · exact settled_foldl Settled.root hsteps
  · exact settled_foldl Settled.start hsteps

theorem foldl_collapse_reverse (h : Settled taken) : taken.reverse.foldl collapse [] = taken := by
  induction h with
  | start => rfl
  | root => rfl
  | up hs hup ih =>
    rw [List.reverse_cons, List.foldl_append, ih, List.foldl_cons, hup, List.foldl_nil]
  | name hs hn ih =>
    rw [List.reverse_cons, List.foldl_append, ih]
    rfl

/-- Steps up, and then names. -/
def climb (height : Nat) (names : List (List UInt8)) : List Component :=
  List.replicate height .up ++ names.map .name

theorem isInner_of_mem_climb (height : Nat) (h : ∀ n ∈ names, IsName n) :
    ∀ c ∈ climb height names, c.IsInner := by
  intro c hc
  rcases List.mem_append.mp hc with hc | hc
  · rw [List.eq_of_mem_replicate hc]
    exact isInner_up
  · obtain ⟨n, hn, rfl⟩ := List.mem_map.mp hc
    exact isInner_name.mpr (h n hn)

/-- A step up that stays does not follow a name. -/
theorem ne_name_of_collapse_up (h : collapse taken .up = .up :: taken) (bytes : List UInt8)
    (rest : List Component) : taken ≠ .name bytes :: rest := by
  rintro rfl
  have hlength := congrArg List.length h
  simp only [collapse, List.length_cons] at hlength
  omega

/-- Steps that collapse no further are names, behind the root or behind steps up. -/
theorem Settled.exists_climb (h : Settled taken) :
    ∃ names, (∀ n ∈ names, IsName n) ∧
      (taken.reverse = .root :: names.map .name ∨
        ∃ height, taken.reverse = climb height names) := by
  induction h with
  | start => exact ⟨[], by simp, Or.inr ⟨0, rfl⟩⟩
  | root => exact ⟨[], by simp, Or.inl rfl⟩
  | @name taken bytes hs hn ih =>
    obtain ⟨names, hnames, hsteps⟩ := ih
    refine ⟨names ++ [bytes], ?_, ?_⟩
    · simpa [or_imp, forall_and] using ⟨hnames, isInner_name.mp hn⟩
    · rcases hsteps with hsteps | ⟨height, hsteps⟩
      · exact Or.inl (by simp [hsteps])
      · exact Or.inr ⟨height, by simp [hsteps, climb]⟩
  | @up taken hs hup ih =>
    -- There is no name yet, or the step would have taken it back.
    obtain ⟨names, -, hsteps⟩ := ih
    refine ⟨[], by simp, Or.inr ?_⟩
    rcases List.eq_nil_or_concat names with rfl | ⟨front, last, rfl⟩
    · rcases hsteps with hsteps | ⟨height, hsteps⟩
      · obtain rfl : taken = [.root] := by simpa using congrArg List.reverse hsteps
        cases hup
      · refine ⟨height + 1, ?_⟩
        simp only [climb, List.map_nil, List.append_nil] at hsteps ⊢
        rw [List.reverse_cons, hsteps, List.replicate_succ']
    · have hname : ∃ rest, taken = .name last :: rest := by
        rcases hsteps with hsteps | ⟨height, hsteps⟩ <;>
          exact ⟨_, by simpa [climb] using congrArg List.reverse hsteps⟩
      obtain ⟨rest, htaken⟩ := hname
      exact absurd htaken (ne_name_of_collapse_up hup last rest)

theorem ofComponents_climb (h : 0 < height ∨ names ≠ []) :
    ofComponents (climb height names) = ofSegments ((climb height names).map stepBytes) := by
  cases height with
  | succ height => rfl
  | zero =>
    cases names with
    | nil => simp at h
    | cons n names => rfl

theorem components_ofComponents (h : Settled taken) (hne : taken ≠ []) :
    (ofComponents taken.reverse).components = taken.reverse := by
  obtain ⟨names, hnames, hreverse | ⟨height, hreverse⟩⟩ := h.exists_climb
  · rw [hreverse]
    exact components_rooted (isInner_of_mem_climb 0 hnames)
  · have hsteps : climb height names ≠ [] := by simpa [← hreverse] using hne
    have hsome : 0 < height ∨ names ≠ [] := by
      cases height with
      | zero => exact Or.inr (by simpa [climb] using hsteps)
      | succ height => exact Or.inl (Nat.succ_pos height)
    rw [hreverse, ofComponents_climb hsome]
    exact components_ofSegments (isInner_of_mem_climb height hnames) hsteps

/-- Where all steps cancel out, the path is spelled by a dot, which stands for no step. -/
theorem collapsed_ofComponents (h : Settled taken) :
    (ofComponents taken.reverse).collapsed = taken := by
  by_cases hne : taken = []
  · subst hne
    rfl
  · rw [collapsed, components_ofComponents h hne, foldl_collapse_reverse h]

theorem collapsed_normalize (path : Path) : path.normalize.collapsed = path.collapsed :=
  collapsed_ofComponents (settled_collapsed path)

theorem normalize_inj : a.normalize = b.normalize ↔ a.collapsed = b.collapsed := by
  constructor
  · intro h
    rw [← collapsed_normalize a, h, collapsed_normalize]
  · intro h
    rw [normalize_eq, normalize_eq, h]

theorem normalize_normalize (path : Path) : path.normalize.normalize = path.normalize :=
  normalize_inj.mpr (collapsed_normalize path)

theorem normalize_congr (h : a.components = b.components) : a.normalize = b.normalize := by
  rw [normalize, normalize, h]

theorem same_comm (a b : Path) : a.same b = b.same a := by
  unfold same
  exact Bool.eq_iff_iff.mpr ⟨fun h => beq_iff_eq.mpr (eq_of_beq h).symm,
    fun h => beq_iff_eq.mpr (eq_of_beq h).symm⟩

theorem eq_of_same (ha : a.normalize = a) (hb : b.normalize = b) (h : a.same b) : a = b := by
  rw [← ha, ← hb]
  exact normalize_congr (eq_of_beq h)

theorem same_normalize : a.normalize.same b.normalize ↔ a.normalize = b.normalize := by
  constructor
  · exact eq_of_same (normalize_normalize a) (normalize_normalize b)
  · intro h
    rw [h]
    exact beq_self_eq_true _

end TrackFinder.Path
