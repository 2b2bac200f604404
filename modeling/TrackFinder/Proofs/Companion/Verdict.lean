import TrackFinder.Companion.Conflict
import TrackFinder.Proofs.FileName

/-! Settling conflicts one companion after the other gives each the verdict that it has in the
company of all. -/
namespace TrackFinder.Companion

variable {c d i : Companion} {all cs others others' before rest : List Companion}

/-- What the search knows of a companion, apart from whether it is rejected. -/
def bare (c : Companion) : Companion := { c with rejection := none }

/-- A companion as it is left in the company of `all`. -/
def verdict (all : List Companion) (c : Companion) : Companion :=
  if c.isRejected then c
  else
    match objection? all c with
    | none => c
    | some reason => c.reject reason

theorem value_examine (others : List Companion) (c : Companion) :
    (examine others c).value = verdict others c := by
  unfold examine verdict
  split
  · rfl
  · split <;> simp_all

/-- One that is not rejected yet is rejected for what is objected to it, if anything is. -/
theorem verdict_of_new (hc : c.rejection = none) :
    verdict all c = { c with rejection := objection? all c } := by
  obtain ⟨path, kind, priority, rejection⟩ := c
  cases hc
  unfold verdict
  cases objection? all ⟨path, kind, priority, none⟩ with
  | none => rfl
  | some reason => rfl

theorem verdict_eq_self (h : ¬ (verdict all c).isRejected) : verdict all c = c := by
  by_cases hc : c.isRejected
  · simp [verdict, hc]
  · have hnew : c.rejection = none := by simpa [isRejected] using hc
    rw [verdict_of_new hnew] at h ⊢
    have ho : objection? all c = none := by simpa [isRejected] using h
    rw [ho, ← hnew]

@[simp] theorem bare_verdict (all : List Companion) (c : Companion) :
    (verdict all c).bare = c.bare := by
  unfold verdict
  split
  · rfl
  · split <;> rfl

theorem fold_eq_of_hasExtension {x y : String} (hx : c.hasExtension x) (hy : c.hasExtension y) :
    Ascii.fold x.toList = Ascii.fold y.toList := by
  unfold hasExtension at hx hy
  cases he : c.extension? with
  | none => simp [he] at hx
  | some e =>
    simp only [he, Ascii.same_iff] at hx hy
    exact hx.symm.trans hy

/-- A companion has one extension only. -/
theorem hasExtension_eq_false {x y : String} (h : c.hasExtension x)
    (hne : Ascii.fold x.toList ≠ Ascii.fold y.toList) : c.hasExtension y = false := by
  rw [← Bool.not_eq_true]
  exact fun hy => hne (fold_eq_of_hasExtension h hy)

/-- Whether a path is that of an index of `c`. -/
def indexPath (c : Companion) (path : String) : Bool :=
  let other : Companion := ⟨path, .subtitle, .none, none⟩
  other.hasExtension "idx" && other.sameStem c

/-- The index is found by its path alone. -/
theorem path_index? (others : List Companion) (c : Companion) :
    (index? others c).map path = (others.map path).find? (indexPath c) := by
  rw [List.find?_map]
  rfl

theorem objection?_sub (h : c.hasExtension "sub") :
    objection? all c = ((all.map path).find? (indexPath c)).map .pairedWithIndex := by
  rw [objection?, if_pos h, ← path_index?, Option.map_map]
  rfl

/-- Only the index of a subtitle stream is looked for among the others. -/
theorem objection?_eq (h : c.hasExtension "sub" →
    (others.map path).find? (indexPath c) = (others'.map path).find? (indexPath c)) :
    objection? others c = objection? others' c := by
  by_cases hsub : c.hasExtension "sub"
  · rw [objection?_sub hsub, objection?_sub hsub, h hsub]
  · rw [objection?, objection?, if_neg hsub, if_neg hsub]

theorem objection?_congr (h : others.map path = others'.map path) (c : Companion) :
    objection? others c = objection? others' c :=
  objection?_eq fun _ => by rw [h]

/-- Its own place among the others does not matter to a companion. -/
theorem objection?_self (before rest : List Companion) (c : Companion) :
    objection? (before ++ c :: rest) c = objection? (before ++ rest) c := by
  unfold objection?
  by_cases hs : c.hasExtension "sub"
  · have hc : (c.hasExtension "idx" && c.sameStem c) = false := by
      rw [hasExtension_eq_false hs (by decide)]
      rfl
    simp [hs, index?, List.find?_append, List.find?_cons_of_neg, hc]
  · simp [hs]

theorem path_verdict (all : List Companion) (c : Companion) : (verdict all c).path = c.path := by
  have h : (verdict all c).bare.path = c.bare.path := by rw [bare_verdict]
  exact h

/-- The companions examined keep their paths, so one to come is judged as by the list that was there
at the start. -/
theorem objection?_examined (hp : cs.map path = before.map path) (rest : List Companion)
    (c : Companion) : objection? (cs ++ rest) c = objection? (before ++ c :: rest) c := by
  have hpaths : (cs ++ rest).map path = (before ++ rest).map path := by
    rw [List.map_append, List.map_append, hp]
  rw [objection?_self, objection?_congr hpaths]

theorem paths_examined (hp : cs.map path = before.map path) (all : List Companion)
    (c : Companion) : (cs ++ [verdict all c]).map path = (before ++ [c]).map path := by
  simp [hp, path_verdict]

theorem value_settleFrom (hp : cs.map path = before.map path) (rest : List Companion) :
    (settleFrom cs rest).value = cs ++ rest.map (verdict (before ++ rest)) := by
  induction rest generalizing cs before with
  | nil => simp [settleFrom]
  | cons c rest ih =>
    have hv : (examine (cs ++ rest) c).value = verdict (before ++ c :: rest) c := by
      rw [value_examine, verdict, verdict, objection?_examined hp]
    rw [settleFrom, Run.value_bind, hv, ih (paths_examined hp _ c)]
    simp

theorem value_settle (cs : List Companion) : (settle cs).value = cs.map (verdict cs) :=
  value_settleFrom rfl cs

/-- A subtitle stream gives way to its index, a karaoke track to nothing but a better name. -/
def GivesWay (all : List Companion) (c : Companion) : Prop :=
  (c.hasExtension "sub" ∧ ∃ i ∈ all, i.hasExtension "idx" ∧ i.sameStem c) ∨
    (c.hasExtension "cdg" ∧ c.priority ≠ .matchAll)

theorem givesWay_bare : GivesWay all c.bare ↔ GivesWay all c := Iff.rfl

theorem rank_lt_matchAll {p : Priority} : p.rank < Priority.matchAll.rank ↔ p ≠ .matchAll := by
  cases p <;> decide

theorem isSome_objection? (all : List Companion) (c : Companion) :
    (objection? all c).isSome ↔ GivesWay all c := by
  unfold objection? GivesWay
  by_cases hs : c.hasExtension "sub"
  · have hk : c.hasExtension "cdg" = false := hasExtension_eq_false hs (by decide)
    simp [hs, hk, index?]
  · by_cases hk : c.hasExtension "cdg" <;> simp [hs, hk, rank_lt_matchAll]

theorem isRejected_verdict (all : List Companion) (c : Companion) :
    (verdict all c).isRejected ↔ c.isRejected ∨ GivesWay all c := by
  rw [← isSome_objection?]
  by_cases hc : c.isRejected
  · simp [verdict, hc]
  · have hnew : c.rejection = none := by simpa [isRejected] using hc
    simp [verdict_of_new hnew, isRejected, hnew]

theorem mem_of_index? (h : index? all c = some i) :
    i ∈ all ∧ i.hasExtension "idx" ∧ i.sameStem c := by
  unfold index? at h
  have hfound := List.find?_some h
  rw [Bool.and_eq_true] at hfound
  exact ⟨List.mem_of_find?_eq_some h, hfound⟩

theorem objection?_eq_paired {p : String} (h : objection? all c = some (.pairedWithIndex p)) :
    c.hasExtension "sub" ∧ ∃ i ∈ all, i.path = p ∧ i.hasExtension "idx" ∧ i.sameStem c := by
  unfold objection? at h
  split at h
  · rename_i hsub
    obtain ⟨i, hi, hpath⟩ := Option.map_eq_some_iff.mp h
    obtain ⟨hmem, hidx, hstem⟩ := mem_of_index? hi
    exact ⟨hsub, i, hmem, Rejection.pairedWithIndex.inj hpath, hidx, hstem⟩
  · split at h
    · cases h
    · cases h

/-- An index gives way to nothing. -/
theorem objection?_idx (h : i.hasExtension "idx") : objection? all i = none := by
  have hsub : i.hasExtension "sub" = false := hasExtension_eq_false h (by decide)
  have hcdg : i.hasExtension "cdg" = false := hasExtension_eq_false h (by decide)
  simp [objection?, hsub, hcdg]

end TrackFinder.Companion
