import TrackFinder.Proofs.Path.Join

/-! How a normal form is spelled: a dot, or the root and names, or steps up and then names. Every
path so spelled is its own normal form. -/
namespace TrackFinder.Path

variable {path : Path} {taken steps : List Component} {segment : List UInt8}
  {names : List (List UInt8)} {height : Nat} {c : Component}

/-- A path that starts at the root. -/
def IsAbsolute (path : Path) : Prop := path.bytes.head? = some slash

/-- The spelling of a normal form: no step but names, unless some steps up come first, which they do
only where there is no root. -/
inductive IsNormal : Path → Prop where
  | here : IsNormal ⟨[dot]⟩
  | absolute (names : List (List UInt8)) (h : ∀ n ∈ names, IsName n) :
      IsNormal ⟨slash :: [slash].intercalate names⟩
  | relative (height : Nat) (names : List (List UInt8)) (h : ∀ n ∈ names, IsName n)
      (hne : 0 < height ∨ names ≠ []) :
      IsNormal ⟨[slash].intercalate (List.replicate height [dot, dot] ++ names)⟩

theorem spell_climb (h : 0 < height ∨ names ≠ []) :
    ofComponents (climb height names) =
      ⟨[slash].intercalate (List.replicate height [dot, dot] ++ names)⟩ := by
  rw [ofComponents_climb h]
  simp [ofSegments, climb, stepBytes, Function.comp_def]

theorem spell_rooted (names : List (List UInt8)) :
    ofComponents (.root :: names.map .name) = ⟨slash :: [slash].intercalate names⟩ := by
  simp [ofComponents, stepBytes, Function.comp_def]

theorem isNormal_normalize (path : Path) : IsNormal path.normalize := by
  obtain ⟨names, hnames, hsteps | ⟨height, hsteps⟩⟩ := (settled_collapsed path).exists_climb
  · rw [normalize_eq, hsteps, spell_rooted]
    exact .absolute names hnames
  · rw [normalize_eq, hsteps]
    by_cases h : 0 < height ∨ names ≠ []
    · rw [spell_climb h]
      exact .relative height names hnames h
    · obtain ⟨rfl, rfl⟩ : height = 0 ∧ names = [] := by simpa using h
      exact .here

theorem Settled.append_names (hs : Settled taken) (h : ∀ n ∈ names, IsName n) :
    Settled ((names.map .name).reverse ++ taken) := by
  induction names generalizing taken with
  | nil => exact hs
  | cons n names ih =>
    obtain ⟨hn, hnames⟩ := List.forall_mem_cons.mp h
    simpa using ih (.name hs (isInner_name.mpr hn)) hnames

theorem settled_ups (height : Nat) : Settled (List.replicate height .up) := by
  induction height with
  | zero => exact .start
  | succ height ih => exact .up ih (by cases height <;> rfl)

/-- Steps that collapse no further are those of a normal form. -/
theorem normalize_of_settled (hs : Settled taken) (h : path = ofComponents taken.reverse) :
    path.normalize = path := by
  rw [h, normalize_eq, collapsed_ofComponents hs]

/-- The paths in normal form are those so spelled. -/
theorem normalize_eq_self : path.normalize = path ↔ IsNormal path := by
  constructor
  · intro h
    rw [← h]
    exact isNormal_normalize path
  · intro h
    cases h with
    | here => rfl
    | absolute names h =>
      refine normalize_of_settled (Settled.root.append_names h) ?_
      rw [← spell_rooted]
      simp
    | relative height names h hne =>
      refine normalize_of_settled ((settled_ups height).append_names h) ?_
      rw [← spell_climb hne]
      simp [climb]

theorem root_mem_collapse : .root ∈ collapse taken c ↔ .root ∈ taken ∨ c = .root := by
  cases c with
  | up => rcases taken with - | ⟨- | - | - | -, taken⟩ <;> simp [collapse]
  | _ => simp [collapse]

theorem root_mem_foldl : .root ∈ steps.foldl collapse taken ↔ .root ∈ taken ∨ .root ∈ steps := by
  induction steps generalizing taken with
  | nil => simp
  | cons d steps ih =>
    have hd : d = .root ↔ .root = d := eq_comm
    rw [List.foldl_cons, ih, root_mem_collapse, List.mem_cons, or_assoc, hd]

theorem root_not_mem_filterMap (segments : List (List UInt8)) :
    .root ∉ segments.filterMap step? := by
  intro h
  obtain ⟨segment, -, hstep⟩ := List.mem_filterMap.mp h
  unfold step? at hstep
  split at hstep
  · cases hstep
  · split at hstep <;> cases hstep

theorem root_mem_lead : .root ∈ lead segment ↔ segment = [] := by
  unfold lead
  by_cases hf : segment = []
  · simp [hf]
  · by_cases hdot : segment = [dot]
    · simp [hdot]
    · simpa [hf, hdot] using root_not_mem_filterMap [segment]

/-- A path starts at the root if the root is among the steps that it comes to. -/
theorem isAbsolute_iff : path.IsAbsolute ↔ .root ∈ path.collapsed := by
  obtain ⟨first, rest, hpath⟩ := exists_segments path
  rw [collapsed, root_mem_foldl, IsAbsolute]
  by_cases hempty : path.bytes = []
  · obtain rfl : path = ⟨[]⟩ := congrArg Path.mk hempty
    simp [components, segments]
  · have hrest := rest_ne_nil hempty hpath
    rw [components_of_segments hpath hrest, List.mem_append, root_mem_lead]
    constructor
    · intro h
      exact Or.inr (Or.inl (first_eq_nil hpath h))
    · rintro (h | h | h)
      · cases h
      · exact head?_eq_slash hpath h (hrest h)
      · exact absurd h (root_not_mem_filterMap rest)

theorem isAbsolute_normalize : path.normalize.IsAbsolute ↔ path.IsAbsolute := by
  rw [isAbsolute_iff, collapsed_normalize, isAbsolute_iff]

theorem normalize_ne_nil (path : Path) : path.normalize.bytes ≠ [] := by
  intro h
  have hempty : path.normalize = ⟨[]⟩ := congrArg Path.mk h
  have hdot := normalize_normalize path
  rw [hempty] at hdot
  cases hdot

/-- The normal form of a path is a path spelled as normal forms are, and each path so spelled is its
own. It is never empty, and absolute just if the path is. Whatever is joined to the path leads where
it leads joined to the normal form. -/
theorem normalize_canonical (path other : Path) :
    IsNormal path.normalize ∧ path.normalize.bytes ≠ [] ∧
    (path.normalize.IsAbsolute ↔ path.IsAbsolute) ∧
    path.normalize.normalize = path.normalize ∧ (path.normalize = path ↔ IsNormal path) ∧
    (path.join other).normalize = (path.normalize.join other).normalize :=
  ⟨isNormal_normalize path, normalize_ne_nil path, isAbsolute_normalize, normalize_normalize path,
    normalize_eq_self, (normalize_join path other).symm⟩

example : (ofText "../a//b/../../x/.").normalize = ofText "../x" := by decide

end TrackFinder.Path
