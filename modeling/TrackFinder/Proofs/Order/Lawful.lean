import TrackFinder.Order.Listing
import TrackFinder.Proofs.Text.Utf8

/-! Byte order, its caseless refinement and the order of companions are lawful comparisons. -/
namespace TrackFinder.Order

open Std

variable {α β : Type} {collator : Collator}

/-- Comparing keys is lawful where comparing what they are keys to is. -/
theorem transCmp_on (order : β → β → Ordering) [TransCmp order] (key : α → β) :
    TransCmp fun a b => order (key a) (key b) where
  eq_swap := OrientedCmp.eq_swap
  isLE_trans := TransCmp.isLE_trans

theorem bytes_eq_compareLex : bytes = List.compareLex (compareOn UInt8.toNat) := by
  funext a b
  induction a generalizing b with
  | nil => cases b <;> rfl
  | cons x a ih =>
    cases b with
    | nil => rfl
    | cons y b =>
      rw [bytes, List.compareLex_cons_cons, ih]
      rfl

instance : TransCmp bytes := by
  rw [bytes_eq_compareLex]
  infer_instance

instance lawfulEqCmp_toNat : LawfulEqCmp (compareOn UInt8.toNat) where
  compare_self := ReflCmp.compare_self
  eq_of_compare h := UInt8.toNat_inj.mp (LawfulEqCmp.eq_of_compare h)

instance : LawfulEqCmp bytes := by
  rw [bytes_eq_compareLex]
  infer_instance

instance : TransCmp plain := transCmp_on bytes Utf8.encode

instance : LawfulEqCmp plain where
  compare_self := ReflCmp.compare_self
  eq_of_compare h := Utf8.encode_injective (LawfulEqCmp.eq_of_compare h)

instance : TransCmp ascii := by
  have := transCmp_on bytes fun a => (Utf8.encode a).map smallByte
  exact inferInstanceAs (TransCmp (compareLex _ plain))

instance : LawfulEqCmp ascii where
  compare_self := ReflCmp.compare_self
  eq_of_compare h := LawfulEqCmp.eq_of_compare (Ordering.then_eq_eq.mp h).2

theorem rank_injective : Function.Injective Priority.rank := by
  intro p q h
  cases p <;> cases q <;> first | rfl | cases h

instance : TransCmp Priority.compare := transCmp_on (compare : Nat → Nat → Ordering) Priority.rank

instance : LawfulEqCmp Priority.compare where
  compare_self := ReflCmp.compare_self
  eq_of_compare h := rank_injective (LawfulEqCmp.eq_of_compare (show compare _ _ = .eq from h))

instance [TransCmp collator] : TransCmp (companions collator) := by
  have hpriority := transCmp_on (fun p q => Priority.compare q p) Companion.priority
  have hpath := transCmp_on collator Companion.path
  exact inferInstanceAs (TransCmp (compareLex _ fun a b : Companion => collator a.path b.path))

/-- Under a linear order of texts only companions of one path and one priority tie. -/
theorem companions_tie [TransCmp collator] [LawfulEqCmp collator] {a b : Companion} :
    companions collator a b = .eq ↔ a.priority = b.priority ∧ a.path = b.path := by
  rw [companions, Ordering.then_eq_eq, LawfulEqCmp.compare_eq_iff_eq,
    LawfulEqCmp.compare_eq_iff_eq, eq_comm]

end TrackFinder.Order
