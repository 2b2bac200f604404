import TrackFinder.Order.Listing

/-! What sorting does to a list: which elements it has, where equal ones stand, and what becomes of
it when elements are changed or left out. -/
namespace TrackFinder.Order

variable {α β : Type} {order : α → α → Ordering} {xs ys : List α}

theorem sort_perm (order : α → α → Ordering) (xs : List α) : (sort order xs).Perm xs :=
  List.mergeSort_perm xs _

theorem mem_sort {a : α} : a ∈ sort order xs ↔ a ∈ xs := (sort_perm order xs).mem_iff

theorem isLE_total [Std.OrientedCmp order] (a b : α) : (order a b).isLE || (order b a).isLE := by
  rw [@Std.OrientedCmp.eq_swap _ order _ b]
  cases order a b <;> rfl

theorem sort_pairwise [Std.TransCmp order] (xs : List α) :
    (sort order xs).Pairwise fun a b => (order a b).isLE :=
  List.pairwise_mergeSort (fun _ _ _ => Std.TransCmp.isLE_trans) isLE_total xs

/-- A change that the order does not see may come before or after the sort. -/
theorem sort_map {order' : β → β → Ordering} {f : α → β}
    (h : ∀ a b, order a b = order' (f a) (f b)) (xs : List α) :
    (sort order xs).map f = sort order' (xs.map f) :=
  List.map_mergeSort fun a _ b _ => by rw [h]

/-- The first element finds its place in the sorted rest. -/
theorem sort_cons (order : α → α → Ordering) [Std.TransCmp order] (a : α) (xs : List α) :
    ∃ front back, sort order (a :: xs) = front ++ a :: back ∧ sort order xs = front ++ back ∧
      (∀ b ∈ front, ¬ (order a b).isLE) ∧ ∀ b ∈ back, (order a b).isLE := by
  obtain ⟨front, back, ha, hxs, hfront⟩ := @List.mergeSort_cons _ (fun a b => (order a b).isLE)
    (fun _ _ _ => Std.TransCmp.isLE_trans) isLE_total a xs
  have hs : (front ++ a :: back).Pairwise fun a b => (order a b).isLE :=
    ha ▸ sort_pairwise (a :: xs)
  refine ⟨front, back, ha, hxs, ?_, (List.pairwise_cons.mp (List.pairwise_append.mp hs).2.1).1⟩
  intro b hb
  simpa only [Bool.not_eq_true', Bool.not_eq_true] using hfront b hb

/-- Only one cut leaves on its right all that has a property, and on its left all that lacks it. -/
theorem cut_unique {p : α → Bool} {front back front' back' : List α}
    (hf : ∀ b ∈ front, ¬ p b) (hb : ∀ b ∈ back, p b) (hf' : ∀ b ∈ front', ¬ p b)
    (hb' : ∀ b ∈ back', p b) (h : front ++ back = front' ++ back') :
    front = front' ∧ back = back' := by
  have hback : back = back' := by
    have hp := congrArg (List.filter p) h
    rwa [List.filter_append, List.filter_append, List.filter_eq_nil_iff.mpr hf,
      List.filter_eq_nil_iff.mpr hf', List.filter_eq_self.mpr hb, List.filter_eq_self.mpr hb',
      List.nil_append, List.nil_append] at hp
  subst hback
  exact ⟨List.append_cancel_right h, rfl⟩

/-- Elements may be left out before or after the sort. -/
theorem sort_filter [Std.TransCmp order] (p : α → Bool) (xs : List α) :
    (sort order xs).filter p = sort order (xs.filter p) := by
  induction xs with
  | nil => simp [sort]
  | cons a xs ih =>
    obtain ⟨front, back, ha, hxs, hfront, hback⟩ := sort_cons order a xs
    by_cases hp : p a
    · obtain ⟨front', back', ha', hxs', hfront', hback'⟩ :=
        sort_cons order a (xs.filter p)
      rw [hxs, List.filter_append, hxs'] at ih
      obtain ⟨hf, hb⟩ := cut_unique (fun b hb => hfront b (List.mem_filter.mp hb).1)
        (fun b hb => hback b (List.mem_filter.mp hb).1) hfront' hback' ih
      rw [List.filter_cons_of_pos hp, ha, ha', List.filter_append, List.filter_cons_of_pos hp, hf,
        hb]
    · rw [List.filter_cons_of_neg hp, ← ih, ha, hxs, List.filter_append,
        List.filter_cons_of_neg hp, List.filter_append]

/-- Elements that tie with `a` keep their order. -/
theorem sort_tied [Std.TransCmp order] (a : α) (xs : List α) :
    (sort order xs).filter (fun b => order a b = .eq) = xs.filter fun b => order a b = .eq := by
  rw [sort_filter]
  apply List.mergeSort_of_pairwise
  rw [List.pairwise_iff_forall_sublist]
  intro b c hbc
  have hb := (List.mem_filter.mp (hbc.subset (List.mem_cons_self ..))).2
  have hlast : c ∈ [b, c] := List.mem_cons_of_mem b (List.mem_singleton_self c)
  have hc := (List.mem_filter.mp (hbc.subset hlast)).2
  rw [decide_eq_true_eq] at hb hc
  rw [← Std.TransCmp.congr_left hb, hc]
  rfl

/-- Where elements that tie are the same, the sorted list depends on the members alone. -/
theorem sort_eq_of_perm [Std.TransCmp order] (hp : xs.Perm ys)
    (h : ∀ a ∈ xs, ∀ b ∈ xs, order a b = .eq → a = b) : sort order xs = sort order ys := by
  have hsorted : (sort order xs).Perm (sort order ys) :=
    (sort_perm order xs).trans (hp.trans (sort_perm order ys).symm)
  apply hsorted.eq_of_pairwise _ (sort_pairwise xs) (sort_pairwise ys)
  intro a b ha hb hab hba
  have htie := Std.OrientedCmp.isLE_antisymm hab hba
  exact h a (mem_sort.mp ha) b (hp.mem_iff.mpr (mem_sort.mp hb)) htie

end TrackFinder.Order
