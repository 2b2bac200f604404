import Mathlib.Data.List.Nodup
import TrackFinder.Proofs.Companion.Verdict
import TrackFinder.Proofs.Order.Stable

/-! Companions may be rejected, settled, sorted and split in any order. None is lost or doubled on
the way, and each keeps the first reason that it was given. -/
namespace TrackFinder.Companion

/-- What can be done with a list of companions. -/
inductive Change where
  | reject (place : Nat) (reason : Rejection)
  | settle
  | sort (collator : Collator)
  | split

/-- A change of one of the lists at hand. -/
structure Operation where
  list : Nat
  change : Change

/-- Puts what a list changes to in its place. -/
def changeAt {α : Type} (change : List α → List (List α)) : Nat → List (List α) → List (List α)
  | _, [] => []
  | 0, xs :: lists => change xs ++ lists
  | n + 1, xs :: lists => xs :: changeAt change n lists

/-- Splitting makes two lists of one. -/
def Change.apply : Change → List Companion → List (List Companion)
  | reject place reason, cs => [cs.modify place (Companion.reject reason)]
  | settle, cs => [(Companion.settle cs).value]
  | sort collator, cs => [Order.sort (Order.companions collator) cs]
  | split, cs => [(Companion.split cs).1, (Companion.split cs).2]

/-- The lists after the operations, done one after the other. -/
def run (lists : List (List Companion)) (operations : List Operation) : List (List Companion) :=
  operations.foldl (fun lists op => changeAt op.change.apply op.list lists) lists

/-- A companion that is followed through the operations, with its number and the reasons that it was
given so far. It is rejected for the first of them. -/
structure Tracked where
  number : Nat
  companion : Companion
  given : List Rejection
  first : companion.rejection = given.head?

namespace Tracked

/-- A companion as it is found has been given the reason that it is found with, if any. -/
def found (number : Nat) (path : String) (kind : TrackKind) (priority : Priority) : Tracked where
  number := number
  companion := .found path kind priority
  given := (Companion.found path kind priority).rejection.toList
  first := Option.head?_toList.symm

def reject (reason : Rejection) (t : Tracked) : Tracked where
  number := t.number
  companion := t.companion.reject reason
  given := t.given ++ [reason]
  first := by
    rw [List.head?_append, ← t.first]
    rfl

/-- Gives a reason where one is objected. What is rejected already is given none. -/
def settle (all : List Companion) (t : Tracked) : Tracked :=
  if t.companion.isRejected then t
  else
    match objection? all t.companion with
    | none => t
    | some reason => t.reject reason

end Tracked

/-- As `apply`, with companions that are followed. -/
def Change.follow : Change → List Tracked → List (List Tracked)
  | reject place reason, ts => [ts.modify place (Tracked.reject reason)]
  | settle, ts => [ts.map (Tracked.settle (ts.map Tracked.companion))]
  | sort collator, ts =>
    [Order.sort (fun t u => Order.companions collator t.companion u.companion) ts]
  | split, ts =>
    [ts.filter fun t => !t.companion.isRejected, ts.filter fun t => t.companion.isRejected]

def track (lists : List (List Tracked)) (operations : List Operation) : List (List Tracked) :=
  operations.foldl (fun lists op => changeAt op.change.follow op.list lists) lists

variable {α β : Type} {t u v : Tracked} {ts us vs ws : List Tracked}

/-- A change that is seen through `f` in each list is seen through `f` in its place. -/
theorem map_changeAt {f : α → β} {change : List α → List (List α)}
    {change' : List β → List (List β)}
    (h : ∀ xs, (change xs).map (List.map f) = change' (xs.map f)) (n : Nat)
    (lists : List (List α)) :
    (changeAt change n lists).map (List.map f) = changeAt change' n (lists.map (List.map f)) := by
  induction lists generalizing n with
  | nil => simp [changeAt]
  | cons xs lists ih =>
    cases n with
    | zero => simp [changeAt, h]
    | succ n => simp [changeAt, ih]

theorem companion_settle (all : List Companion) (t : Tracked) :
    (t.settle all).companion = verdict all t.companion := by
  unfold Tracked.settle verdict
  split
  · rfl
  · cases objection? all t.companion <;> rfl

theorem map_companion_modify (place : Nat) (reason : Rejection) (ts : List Tracked) :
    (ts.modify place (Tracked.reject reason)).map Tracked.companion =
      (ts.map Tracked.companion).modify place (Companion.reject reason) := by
  induction ts generalizing place with
  | nil => simp
  | cons t ts ih =>
    cases place with
    | zero => rfl
    | succ place => simp [ih]

/-- Whoever does not look at the numbers and the reasons sees what the change does. -/
theorem companion_follow (change : Change) (ts : List Tracked) :
    (change.follow ts).map (List.map Tracked.companion) =
      change.apply (ts.map Tracked.companion) := by
  cases change with
  | reject place reason => exact congrArg (fun cs => [cs]) (map_companion_modify place reason ts)
  | settle =>
    have h : (ts.map (Tracked.settle (ts.map Tracked.companion))).map Tracked.companion =
        (Companion.settle (ts.map Tracked.companion)).value := by
      rw [value_settle, List.map_map, List.map_map]
      exact List.map_congr_left fun t _ => companion_settle _ t
    exact congrArg (fun cs => [cs]) h
  | sort collator =>
    have h : (Order.sort (fun t u => Order.companions collator t.companion u.companion) ts).map
        Tracked.companion = Order.sort (Order.companions collator) (ts.map Tracked.companion) := by
      apply Order.sort_map
      intro t u
      rfl
    exact congrArg (fun cs => [cs]) h
  | split =>
    simp only [Change.follow, Change.apply, Companion.split, List.partition_eq_filter_filter,
      List.filter_map, List.map_cons, List.map_nil, Function.comp_def, Bool.not_not]

theorem companion_track (lists : List (List Tracked)) (operations : List Operation) :
    (track lists operations).map (List.map Tracked.companion) =
      run (lists.map (List.map Tracked.companion)) operations := by
  induction operations generalizing lists with
  | nil => rfl
  | cons op operations ih =>
    rw [track, List.foldl_cons, ← track, ih, map_changeAt (companion_follow op.change)]
    rfl

/-- `u` is `t` at a later time: the same companion, which may have been given further reasons. -/
structure Later (t u : Tracked) : Prop where
  number : u.number = t.number
  path : u.companion.path = t.companion.path
  kind : u.companion.kind = t.companion.kind
  priority : u.companion.priority = t.companion.priority
  given : t.given <+: u.given

namespace Later

theorem refl (t : Tracked) : Later t t := ⟨rfl, rfl, rfl, rfl, List.prefix_rfl⟩

theorem trans (htu : Later t u) (huv : Later u v) : Later t v :=
  ⟨huv.number.trans htu.number, huv.path.trans htu.path, huv.kind.trans htu.kind,
    huv.priority.trans htu.priority, htu.given.trans huv.given⟩

theorem reject (reason : Rejection) (t : Tracked) : Later t (t.reject reason) :=
  ⟨rfl, rfl, rfl, rfl, List.prefix_append ..⟩

theorem settle (all : List Companion) (t : Tracked) : Later t (t.settle all) := by
  unfold Tracked.settle
  split
  · exact refl t
  · split
    · exact refl t
    · exact reject _ t

/-- What is rejected stays so, for the same reason. -/
theorem rejection (h : Later t u) {reason : Rejection} (ht : t.companion.rejection = some reason) :
    u.companion.rejection = some reason := by
  obtain ⟨further, hgiven⟩ := h.given
  rw [t.first] at ht
  rw [u.first, ← hgiven, List.head?_append, ht]
  rfl

end Later

/-- The companions of `us` are those of `ts` at a later time, in any order. -/
structure Carries (ts us : List Tracked) : Prop where
  numbers : (us.map Tracked.number).Perm (ts.map Tracked.number)
  later : ∀ u ∈ us, ∃ t ∈ ts, Later t u

namespace Carries

theorem of_perm (h : us.Perm ts) : Carries ts us :=
  ⟨h.map _, fun u hu => ⟨u, h.mem_iff.mp hu, .refl u⟩⟩

theorem refl (ts : List Tracked) : Carries ts ts := of_perm (List.Perm.refl ts)

theorem trans (htu : Carries ts us) (huv : Carries us vs) : Carries ts vs := by
  refine ⟨huv.numbers.trans htu.numbers, fun v hv => ?_⟩
  obtain ⟨u, hu, huv⟩ := huv.later v hv
  obtain ⟨t, ht, htu⟩ := htu.later u hu
  exact ⟨t, ht, htu.trans huv⟩

theorem append (h : Carries ts us) (h' : Carries vs ws) : Carries (ts ++ vs) (us ++ ws) := by
  refine ⟨?_, fun w hw => ?_⟩
  · rw [List.map_append, List.map_append]
    exact h.numbers.append h'.numbers
  · rcases List.mem_append.mp hw with hw | hw
    · obtain ⟨t, ht, hlater⟩ := h.later w hw
      exact ⟨t, List.mem_append_left _ ht, hlater⟩
    · obtain ⟨v, hv, hlater⟩ := h'.later w hw
      exact ⟨v, List.mem_append_right _ hv, hlater⟩

theorem map {f : Tracked → Tracked} (h : ∀ t, Later t (f t)) (ts : List Tracked) :
    Carries ts (ts.map f) := by
  refine ⟨?_, fun u hu => ?_⟩
  · rw [List.map_map]
    exact .of_eq (List.map_congr_left fun t _ => (h t).number)
  · obtain ⟨t, ht, rfl⟩ := List.mem_map.mp hu
    exact ⟨t, ht, h t⟩

theorem modify {f : Tracked → Tracked} (h : ∀ t, Later t (f t)) (place : Nat)
    (ts : List Tracked) : Carries ts (ts.modify place f) := by
  induction ts generalizing place with
  | nil =>
    rw [List.modify_nil]
    exact refl []
  | cons t ts ih =>
    cases place with
    | zero => exact (map h [t]).append (refl ts)
    | succ place => exact (refl [t]).append (ih place)

/-- One change of a list keeps its companions. -/
theorem follow (change : Change) (ts : List Tracked) : Carries ts (change.follow ts).flatten := by
  cases change with
  | reject place reason =>
    rw [Change.follow, List.flatten_singleton]
    exact modify (Later.reject reason) place ts
  | settle =>
    rw [Change.follow, List.flatten_singleton]
    exact map (Later.settle _) ts
  | sort collator =>
    rw [Change.follow, List.flatten_singleton]
    exact of_perm (Order.sort_perm _ ts)
  | split =>
    have hperm := List.filter_append_perm (fun t => !t.companion.isRejected) ts
    simp only [Bool.not_not] at hperm
    simpa [Change.follow] using of_perm hperm

theorem changeAt {change : List Tracked → List (List Tracked)}
    (h : ∀ ts, Carries ts (change ts).flatten) (n : Nat) (lists : List (List Tracked)) :
    Carries lists.flatten (changeAt change n lists).flatten := by
  induction lists generalizing n with
  | nil =>
    rw [Companion.changeAt]
    exact refl []
  | cons ts lists ih =>
    cases n with
    | zero =>
      rw [Companion.changeAt, List.flatten_append]
      exact (h ts).append (refl _)
    | succ n => exact (refl ts).append (ih n)

/-- So does a whole run of operations. -/
theorem track (lists : List (List Tracked)) (operations : List Operation) :
    Carries lists.flatten (track lists operations).flatten := by
  induction operations generalizing lists with
  | nil => exact refl _
  | cons op operations ih =>
    exact (changeAt (follow op.change) op.list lists).trans (ih _)

/-- Where no number occurs twice, it tells which companion another was. -/
theorem later_of_number (h : Carries ts us) (hnodup : (ts.map Tracked.number).Nodup) (ht : t ∈ ts)
    (hu : u ∈ us) (hnumber : t.number = u.number) : Later t u := by
  obtain ⟨s, hs, hlater⟩ := h.later u hu
  obtain rfl : s = t :=
    List.inj_on_of_nodup_map hnodup hs ht (hlater.number.symm.trans hnumber.symm)
  exact hlater

end Carries

/-- Companions as they are found, numbered in turn. -/
def start (seeds : List (String × TrackKind × Priority)) : List Tracked :=
  seeds.zipIdx.map fun (seed, number) => .found number seed.1 seed.2.1 seed.2.2

theorem numbers_start (seeds : List (String × TrackKind × Priority)) :
    (start seeds).map Tracked.number = List.range seeds.length := by
  rw [start, List.map_map, List.range_eq_range', ← List.zipIdx_map_snd 0 seeds]
  rfl

theorem companions_start (seeds : List (String × TrackKind × Priority)) :
    (start seeds).map Tracked.companion = seeds.map fun seed => found seed.1 seed.2.1 seed.2.2 := by
  calc (start seeds).map Tracked.companion
      = (seeds.zipIdx.map Prod.fst).map fun seed => found seed.1 seed.2.1 seed.2.2 := by
        rw [start, List.map_map, List.map_map]
        rfl
    _ = seeds.map fun seed => found seed.1 seed.2.1 seed.2.2 := by rw [List.zipIdx_map_fst]

theorem seed_of_mem_start {seeds : List (String × TrackKind × Priority)} (h : t ∈ start seeds) :
    seeds[t.number]? = some (t.companion.path, t.companion.kind, t.companion.priority) ∧
      (t.companion.path = "" → t.companion.rejection = some .emptyPath) := by
  obtain ⟨⟨seed, number⟩, hmem, rfl⟩ := List.mem_map.mp h
  exact ⟨List.mem_zipIdx_iff_getElem?.mp hmem, fun hempty => if_pos hempty⟩

/-- Whatever is done with companions that were found, each of them is there once, with its path,
kind and priority. It is rejected for the first reason that it was given, which is that its path is
empty if it is, and once it is rejected it stays so. -/
theorem first_rejection_stands (seeds : List (String × TrackKind × Priority))
    (before after : List Operation) :
    let middle := track [start seeds] before
    let final := track middle after
    final.map (List.map Tracked.companion) =
      run [seeds.map fun seed => found seed.1 seed.2.1 seed.2.2] (before ++ after) ∧
    (final.flatten.map Tracked.number).Perm (List.range seeds.length) ∧
    ∀ u ∈ final.flatten,
      seeds[u.number]? = some (u.companion.path, u.companion.kind, u.companion.priority) ∧
      u.companion.rejection = u.given.head? ∧
      (u.companion.path = "" → u.companion.rejection = some .emptyPath) ∧
      ∀ t ∈ middle.flatten, t.number = u.number → ∀ reason,
        t.companion.rejection = some reason → u.companion.rejection = some reason := by
  intro middle final
  have hmiddle : Carries (start seeds) middle.flatten := by
    simpa using Carries.track [start seeds] before
  have hfinal : Carries middle.flatten final.flatten := Carries.track middle after
  have hnumbers := hmiddle.numbers
  rw [numbers_start] at hnumbers
  refine ⟨?_, hfinal.numbers.trans hnumbers, fun u hu => ?_⟩
  · rw [companion_track, companion_track, run, run, run, ← List.foldl_append, List.map_singleton,
      companions_start]
  · obtain ⟨s, hs, hlater⟩ := (hmiddle.trans hfinal).later u hu
    obtain ⟨hseed, hempty⟩ := seed_of_mem_start hs
    refine ⟨?_, u.first, fun hpath => ?_, fun t ht hnumber reason => ?_⟩
    · rw [hlater.number, hlater.path, hlater.kind, hlater.priority, hseed]
    · exact hlater.rejection (hempty (hlater.path ▸ hpath))
    · have hnodup := hnumbers.nodup_iff.mpr List.nodup_range
      exact (hfinal.later_of_number hnodup ht hu hnumber).rejection

/-- A stream that gave way to its index keeps that reason in the half of the rejected ones. -/
theorem first_rejection_stands_paired :
    let seeds := [("/m/a.idx", .subtitle, .matchAll), ("/m/a.sub", .subtitle, .matchAll)]
    let middle := track [start seeds] [⟨0, .settle⟩]
    let final := track middle [⟨0, .split⟩, ⟨1, .reject 0 .weakKaraokeMatch⟩]
    ∃ t ∈ middle.flatten, ∃ u ∈ final.flatten, t.number = u.number ∧
      t.companion.rejection = some (.pairedWithIndex "/m/a.idx") ∧
      u.given = [.pairedWithIndex "/m/a.idx", .weakKaraokeMatch] ∧
      u.companion.rejection = some (.pairedWithIndex "/m/a.idx") := by
  intro seeds middle final
  let t := (Tracked.found 1 "/m/a.sub" .subtitle .matchAll).reject (.pairedWithIndex "/m/a.idx")
  have ht : t ∈ middle.flatten := List.mem_cons_of_mem _ (List.mem_cons_self ..)
  have hu : t.reject .weakKaraokeMatch ∈ final.flatten :=
    List.mem_cons_of_mem _ (List.mem_cons_self ..)
  refine ⟨t, ht, _, hu, rfl, rfl, rfl, ?_⟩
  exact ((first_rejection_stands seeds _ _).2.2 _ hu).2.2.2 t ht rfl _ rfl

end TrackFinder.Companion
