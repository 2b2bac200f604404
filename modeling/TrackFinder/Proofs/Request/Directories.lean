import Mathlib.Data.List.Forall2
import Mathlib.Data.List.Induction
import TrackFinder.Request
import TrackFinder.Proofs.Path.Normal

/-! The directories to search are the media file's own and, of those that the search paths denote,
each one that is the first to lead where it does. -/
namespace TrackFinder

section Firsts

variable {α : Type} {r : α → α → Prop} [DecidableRel r] {xs ys : List α} {x y : α}

/-- The members of a list that no member before them is related to, in order. -/
def firsts (r : α → α → Prop) [DecidableRel r] (xs : List α) : List α :=
  (xs.zipIdx.filter fun (x, n) => ∀ y ∈ xs.take n, ¬ r y x).map Prod.fst

theorem firsts_concat (r : α → α → Prop) [DecidableRel r] (xs : List α) (x : α) :
    firsts r (xs ++ [x]) = firsts r xs ++ if ∃ y ∈ xs, r y x then [] else [x] := by
  have hfront : xs.zipIdx.filter (fun (y, n) => ∀ z ∈ (xs ++ [x]).take n, ¬ r z y) =
      xs.zipIdx.filter fun (y, n) => ∀ z ∈ xs.take n, ¬ r z y := by
    apply List.filter_congr
    rintro ⟨y, n⟩ hy
    have hn : n ≤ xs.length := Nat.le_of_lt (List.mem_zipIdx' hy).1
    simp only [List.take_append_of_le_length hn]
  have hlast : (∀ y ∈ (xs ++ [x]).take (0 + xs.length), ¬ r y x) ↔ ¬ ∃ y ∈ xs, r y x := by
    rw [Nat.zero_add, List.take_left]
    simp
  rw [firsts, List.zipIdx_append, List.filter_append, List.map_append, hfront, ← firsts]
  simp only [List.zipIdx_singleton, List.filter_cons, List.filter_nil, decide_eq_true_eq, hlast]
  by_cases h : ∃ y ∈ xs, r y x
  · simp only [h, not_true, if_true, if_false, List.map_nil]
  · simp only [h, not_false_iff, if_true, if_false, List.map_cons, List.map_nil]

theorem mem_of_mem_firsts (h : x ∈ firsts r xs) : x ∈ xs := by
  obtain ⟨⟨y, n⟩, hy, rfl⟩ := List.mem_map.mp h
  exact List.fst_mem_of_mem_zipIdx (List.mem_filter.mp hy).1

theorem firsts_pairwise (r : α → α → Prop) [DecidableRel r] (xs : List α) :
    (firsts r xs).Pairwise fun x y => ¬ r x y := by
  induction xs using List.reverseRecOn with
  | nil => exact List.Pairwise.nil
  | append_singleton xs x ih =>
    rw [firsts_concat]
    split
    · rwa [List.append_nil]
    · rename_i h
      refine List.pairwise_append.mpr ⟨ih, List.pairwise_singleton _ _, ?_⟩
      intro y hy z hz hr
      rw [List.mem_singleton.mp hz] at hr
      exact h ⟨y, mem_of_mem_firsts hy, hr⟩

/-- Each member is related to the first that it is related to. -/
theorem exists_mem_firsts (hself : ∀ x, r x x) (htrans : ∀ {x y z}, r x y → r y z → r x z)
    (h : x ∈ xs) : ∃ y ∈ firsts r xs, r y x := by
  induction xs using List.reverseRecOn generalizing x with
  | nil => cases h
  | append_singleton xs z ih =>
    rw [firsts_concat]
    rcases List.mem_append.mp h with h | h
    · obtain ⟨y, hy, hr⟩ := ih h
      exact ⟨y, List.mem_append_left _ hy, hr⟩
    · rw [List.mem_singleton.mp h]
      split
      · rename_i hbefore
        -- `z` is no first, so a member before it leads on to one.
        obtain ⟨w, hw, hwz⟩ := hbefore
        obtain ⟨y, hy, hyw⟩ := ih hw
        exact ⟨y, List.mem_append_left _ hy, htrans hyw hwz⟩
      · exact ⟨z, List.mem_append_right _ (List.mem_singleton_self z), hself z⟩

theorem exists_firsts_iff (hself : ∀ x, r x x) (htrans : ∀ {x y z}, r x y → r y z → r x z)
    (xs : List α) (x : α) : (∃ y ∈ firsts r xs, r y x) ↔ ∃ y ∈ xs, r y x := by
  constructor
  · rintro ⟨y, hy, hr⟩
    exact ⟨y, mem_of_mem_firsts hy, hr⟩
  · rintro ⟨y, hy, hr⟩
    obtain ⟨z, hz, hzy⟩ := exists_mem_firsts hself htrans hy
    exact ⟨z, hz, htrans hzy hr⟩

theorem nodup_firsts (hself : ∀ x, r x x) (xs : List α) : (firsts r xs).Nodup := by
  refine (firsts_pairwise r xs).imp ?_
  rintro x y hr rfl
  exact hr (hself x)

/-- Where only equal members are related, the order of the list only decides that of the firsts. -/
theorem firsts_perm (hself : ∀ x, r x x) (htrans : ∀ {x y z}, r x y → r y z → r x z)
    (heq : ∀ x ∈ xs, ∀ y ∈ xs, r x y → x = y) (h : xs.Perm ys) :
    (firsts r xs).Perm (firsts r ys) := by
  have hmem : ∀ zs, zs.Perm xs → ∀ x, x ∈ firsts r zs ↔ x ∈ zs := by
    intro zs hzs x
    refine ⟨mem_of_mem_firsts, fun hx => ?_⟩
    obtain ⟨y, hy, hr⟩ := exists_mem_firsts hself htrans hx
    have hyx : y = x := heq y (hzs.subset (mem_of_mem_firsts hy)) x (hzs.subset hx) hr
    rwa [← hyx]
  refine (List.perm_ext_iff_of_nodup (nodup_firsts hself xs) (nodup_firsts hself ys)).mpr ?_
  intro x
  rw [hmem xs (List.Perm.refl xs), hmem ys h.symm, h.mem_iff]

end Firsts

/-- Where a path leads: to the real path, or to its own normal form where there is no real one. -/
inductive Path.LeadsTo (realPath : Path → Option Path) (path : Path) : Path → Prop where
  | real {place : Path} (h : realPath path = some place) : LeadsTo realPath path place
  | spelled (h : realPath path = none) : LeadsTo realPath path path.normalize

/-- Whether two paths lead to the same place. -/
def Path.Meets (realPath : Path → Option Path) (a b : Path) : Prop :=
  ∃ p q, a.LeadsTo realPath p ∧ b.LeadsTo realPath q ∧ p.components = q.components

/-- The directory that a search path stands for beside a media file in `mediaDir`. It is relative to
that directory where it starts with a dot and stands for itself otherwise, in normal form. -/
inductive Request.Denotes (mediaDir : Path) : String → Path → Prop where
  | beside (rest : String) :
    Denotes mediaDir ("." ++ rest) (mediaDir.join (Path.ofText ("." ++ rest))).normalize
  | given {searchPath : String} (h : ∀ rest, searchPath ≠ "." ++ rest) :
    Denotes mediaDir searchPath (Path.ofText searchPath).normalize

variable {realPath : Path → Option Path} {a b c dir mediaDir place target : Path}
  {request : Request} {media : FileName} {seen targets : List Path} {searchPath : String}
  {paths paths' : List String}

namespace Path

/-- A path leads to one place. -/
theorem leadsTo_iff : a.LeadsTo realPath place ↔ place = a.resolve realPath := by
  constructor
  · intro h
    cases h with
    | real h =>
      rw [resolve, h]
      rfl
    | spelled h =>
      rw [resolve, h]
      rfl
  · rintro rfl
    unfold resolve
    cases h : realPath a with
    | none => exact .spelled h
    | some real => exact .real h

theorem meets_iff : a.Meets realPath b ↔ (a.resolve realPath).same (b.resolve realPath) := by
  simp only [Meets, leadsTo_iff, exists_and_left, exists_eq_left]
  exact beq_iff_eq.symm

instance : DecidableRel (Meets realPath) := fun _ _ => decidable_of_iff _ meets_iff.symm

theorem meets_self (a : Path) : a.Meets realPath a := meets_iff.mpr (beq_self_eq_true _)

theorem meets_trans (hab : a.Meets realPath b) (hbc : b.Meets realPath c) :
    a.Meets realPath c := by
  rw [meets_iff, same, beq_iff_eq] at hab hbc ⊢
  exact hab.trans hbc

end Path

namespace Request

theorem head?_eq_dot :
    searchPath.toList.head? = some '.' ↔ ∃ rest, searchPath = "." ++ rest := by
  rw [List.head?_eq_some_iff]
  constructor
  · rintro ⟨rest, h⟩
    refine ⟨String.ofList rest, ?_⟩
    rw [← String.toList_inj, String.toList_append, @String.toList_ofList rest, h]
    rfl
  · rintro ⟨rest, rfl⟩
    exact ⟨rest.toList, String.toList_append⟩

/-- A search path denotes one directory. -/
theorem denotes_iff :
    Denotes mediaDir searchPath target ↔ target = denoted mediaDir searchPath := by
  unfold denoted
  constructor
  · intro h
    cases h with
    | beside rest => rw [if_pos (head?_eq_dot.mpr ⟨rest, rfl⟩)]
    | given hno =>
      rw [if_neg]
      intro hdot
      obtain ⟨rest, hrest⟩ := head?_eq_dot.mp hdot
      exact hno rest hrest
  · rintro rfl
    split
    · rename_i hdot
      obtain ⟨rest, rfl⟩ := head?_eq_dot.mp hdot
      exact .beside rest
    · rename_i hdot
      exact .given fun rest hrest => hdot (head?_eq_dot.mpr ⟨rest, hrest⟩)

theorem forall₂_denotes_iff :
    List.Forall₂ (Denotes mediaDir) paths targets ↔ targets = paths.map (denoted mediaDir) := by
  have hrel : Denotes mediaDir = fun p d => denoted mediaDir p = d := by
    funext p d
    exact propext (denotes_iff.trans eq_comm)
  rw [hrel, ← List.forall₂_map_left_iff, List.forall₂_eq_eq_eq]
  exact eq_comm

theorem normalize_denoted (mediaDir : Path) (searchPath : String) :
    (denoted mediaDir searchPath).normalize = denoted mediaDir searchPath := by
  unfold denoted
  split
  · exact Path.normalize_normalize _
  · exact Path.normalize_normalize _

theorem normalize_of_mem (hm : mediaDir.normalize = mediaDir)
    (hd : dir ∈ mediaDir :: paths.map (denoted mediaDir)) : dir.normalize = dir := by
  rcases List.mem_cons.mp hd with rfl | hd
  · exact hm
  · obtain ⟨p, -, rfl⟩ := List.mem_map.mp hd
    exact normalize_denoted mediaDir p

/-- The last search path adds its directory unless that leads where one before does. -/
theorem extraDirectories_concat (realPath : Path → Option Path) (mediaDir : Path)
    (seen : List Path) (paths : List String) (p : String) :
    extraDirectories realPath mediaDir seen (paths ++ [p]) =
      extraDirectories realPath mediaDir seen paths ++
        if (seen ++ (extraDirectories realPath mediaDir seen paths).map fun d =>
            d.1.resolve realPath).any ((denoted mediaDir p).resolve realPath).same
          then [] else [(denoted mediaDir p, .extra)] := by
  induction paths generalizing seen with
  | nil => simp [extraDirectories]
  | cons q paths ih =>
    simp only [List.cons_append, extraDirectories]
    split
    · rw [ih]
    · rw [ih, List.cons_append]
      simp only [List.cons_append, List.map_cons, List.any_append, List.any_cons,
        Bool.or_left_comm]

theorem extraDirectories_eq (realPath : Path → Option Path) (mediaDir : Path)
    (paths : List String) :
    ∃ extras, extraDirectories realPath mediaDir [mediaDir.resolve realPath] paths =
        extras.map (·, .extra) ∧
      mediaDir :: extras =
        firsts (Path.Meets realPath) (mediaDir :: paths.map (denoted mediaDir)) := by
  induction paths using List.reverseRecOn with
  | nil => exact ⟨[], rfl, rfl⟩
  | append_singleton paths p ih =>
    obtain ⟨extras, hextras, hfirsts⟩ := ih
    have hseen : ([mediaDir.resolve realPath] ++ (extras.map (·, Location.extra)).map fun d =>
          d.1.resolve realPath).any ((denoted mediaDir p).resolve realPath).same ↔
        ∃ d ∈ mediaDir :: extras, d.Meets realPath (denoted mediaDir p) := by
      simp [Path.meets_iff, Path.same_comm ((denoted mediaDir p).resolve realPath)]
    -- What was left out so far leads nowhere new, so it need not be asked.
    have hmeets : (∃ d ∈ mediaDir :: extras, d.Meets realPath (denoted mediaDir p)) ↔
        ∃ d ∈ mediaDir :: paths.map (denoted mediaDir),
          d.Meets realPath (denoted mediaDir p) := by
      rw [hfirsts]
      exact exists_firsts_iff Path.meets_self Path.meets_trans _ _
    rw [extraDirectories_concat, hextras, List.map_append, List.map_singleton,
      ← List.cons_append, firsts_concat, ← hfirsts]
    simp only [hseen, hmeets]
    split
    · exact ⟨extras, by rw [List.append_nil], by rw [List.append_nil]⟩
    · exact ⟨extras ++ [denoted mediaDir p], by rw [List.map_append]; rfl, rfl⟩

theorem nodup_directories (realPath : Path → Option Path) (mediaDir : Path)
    (paths : List String) :
    (((mediaDir, Location.primary) :: extraDirectories realPath mediaDir
      [mediaDir.resolve realPath] paths).map Prod.fst).Nodup := by
  obtain ⟨extras, hextras, hfirsts⟩ := extraDirectories_eq realPath mediaDir paths
  rw [hextras, List.map_cons, List.map_map]
  change (mediaDir :: extras.map id).Nodup
  rw [List.map_id, hfirsts]
  exact nodup_firsts Path.meets_self _

theorem normalize_of_mem_directories (hm : mediaDir.normalize = mediaDir)
    {d : Path × Location} (hd : d ∈ (mediaDir, Location.primary) ::
      extraDirectories realPath mediaDir [mediaDir.resolve realPath] paths) :
    d.1.normalize = d.1 := by
  obtain ⟨extras, hextras, hfirsts⟩ := extraDirectories_eq realPath mediaDir paths
  have hmem : d.1 ∈ mediaDir :: extras := by
    rw [hextras] at hd
    rcases List.mem_cons.mp hd with rfl | hd
    · exact List.mem_cons_self ..
    · obtain ⟨extra, hextra, rfl⟩ := List.mem_map.mp hd
      exact List.mem_cons_of_mem _ hextra
  exact normalize_of_mem hm (mem_of_mem_firsts (hfirsts ▸ hmem))

/-- A search goes through the media file's directory and then through each directory that a search
path is the first to lead to, as that search path spells it in normal form. -/
theorem directories_exact (realPath : Path → Option Path)
    (hs : request.splitMedia = .ok (dir, media)) :
    ∃ targets extras, List.Forall₂ (Denotes dir.normalize) request.searchPaths targets ∧
      request.directories realPath =
        .ok ((dir.normalize, .primary) :: extras.map (·, .extra)) ∧
      (∀ d ∈ dir.normalize :: extras, d.normalize = d) ∧
      (dir.normalize :: extras).Pairwise (fun a b => ¬ a.Meets realPath b) ∧
      (∀ p ∈ request.searchPaths, ∀ target, Denotes dir.normalize p target →
        ∃ d ∈ dir.normalize :: extras, d.Meets realPath target) ∧
      dir.normalize :: extras = firsts (Path.Meets realPath) (dir.normalize :: targets) := by
  obtain ⟨extras, hextras, hfirsts⟩ :=
    extraDirectories_eq realPath dir.normalize request.searchPaths
  refine ⟨_, extras, forall₂_denotes_iff.mpr rfl, ?_, ?_, ?_, ?_, hfirsts⟩
  · simp only [directories, hs, hextras]
  · intro d hd
    exact normalize_of_mem (Path.normalize_normalize dir) (mem_of_mem_firsts (hfirsts ▸ hd))
  · rw [hfirsts]
    exact firsts_pairwise _ _
  · intro p hp target htarget
    rw [hfirsts, denotes_iff.mp htarget]
    exact exists_mem_firsts Path.meets_self Path.meets_trans
      (List.mem_cons_of_mem _ (List.mem_map_of_mem hp))

/-- A link to the media file's directory and another spelling of a directory add nothing. -/
theorem directories_exact_link :
    let request : Request := { standard (Path.ofText "/m/Movie.mkv") with
      searchPaths := ["./Subs/.", "/link", "../m/Subs", "/subs"] }
    let realPath : Path → Option Path := fun path =>
      if path = Path.ofText "/link" then some (Path.ofText "/m") else none
    let movies := Path.ofText "/m"
    let extras := [Path.ofText "/m/Subs", Path.ofText "/subs"]
    let targets :=
      [Path.ofText "/m/Subs", Path.ofText "/link", Path.ofText "/m/Subs", Path.ofText "/subs"]
    List.Forall₂ (Denotes movies) request.searchPaths targets ∧
      request.directories realPath =
        .ok [(movies, .primary), (Path.ofText "/m/Subs", .extra), (Path.ofText "/subs", .extra)] ∧
      (∀ d ∈ movies :: extras, d.normalize = d) ∧
      (movies :: extras).Pairwise (fun a b => ¬ a.Meets realPath b) ∧
      (∀ p ∈ request.searchPaths, ∀ target, Denotes movies p target →
        ∃ d ∈ movies :: extras, d.Meets realPath target) ∧
      movies :: extras = firsts (Path.Meets realPath) (movies :: targets) := by
  intro request realPath movies extras targets
  have hs : request.splitMedia = .ok (movies, "Movie.mkv") := rfl
  obtain ⟨targets', extras', htargets, hdirs, hexact⟩ := directories_exact realPath hs
  have hnormal : movies.normalize = movies := by decide
  rw [hnormal] at htargets hdirs hexact
  have htargets' : targets' = targets := (forall₂_denotes_iff.mp htargets).trans (by decide)
  have hlist : request.directories realPath =
      .ok ((movies, .primary) :: extras.map (·, .extra)) := by decide
  have hextras' : extras' = extras :=
    List.map_injective_iff.mpr (fun _ _ h => (Prod.mk.inj h).1)
      (List.cons.inj (Except.ok.inj (hdirs.symm.trans hlist))).2
  rw [htargets', hextras'] at hexact
  rw [htargets'] at htargets
  exact ⟨htargets, hlist, hexact⟩

/-! Where no path is real, directories are told apart by their spelling. -/

theorem eq_of_meets (ha : a.normalize = a) (hb : b.normalize = b)
    (h : a.Meets (fun _ => none) b) : a = b := by
  have hresolve : ∀ d : Path, d.resolve (fun _ => none) = d.normalize := fun d => rfl
  rw [Path.meets_iff, hresolve, hresolve, ha, hb] at h
  exact Path.eq_of_same ha hb h

/-- The order of the search paths only decides the order of the directories. -/
theorem extraDirectories_perm (hm : mediaDir.normalize = mediaDir) (h : paths.Perm paths') :
    (extraDirectories (fun _ => none) mediaDir [mediaDir.resolve fun _ => none] paths).Perm
      (extraDirectories (fun _ => none) mediaDir [mediaDir.resolve fun _ => none] paths') := by
  obtain ⟨extras, hextras, hfirsts⟩ := extraDirectories_eq (fun _ => none) mediaDir paths
  obtain ⟨extras', hextras', hfirsts'⟩ := extraDirectories_eq (fun _ => none) mediaDir paths'
  have hperm : (mediaDir :: extras).Perm (mediaDir :: extras') := by
    rw [hfirsts, hfirsts']
    refine firsts_perm Path.meets_self Path.meets_trans ?_ ((h.map _).cons _)
    intro d hd e he hmeets
    exact eq_of_meets (normalize_of_mem hm hd) (normalize_of_mem hm he) hmeets
  rw [hextras, hextras']
  exact hperm.cons_inv.map _

end Request

end TrackFinder
