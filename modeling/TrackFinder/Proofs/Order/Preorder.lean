import TrackFinder.Proofs.FileName
import TrackFinder.Proofs.Order.Version

/-! What the comparisons that lists are sorted by leave undecided: of names nothing but a name and
itself, of entries and companions what their keys do not tell apart. -/
namespace TrackFinder.Order

open Std

variable {α : Type} {order : α → α → Ordering} {same : α → α → Prop} {collator : Collator}

/-- A comparison that can sort a list: it is turned around by swapping, it is transitive, and it
leaves undecided just what is the same. -/
structure IsPreorder (order : α → α → Ordering) (same : α → α → Prop) : Prop where
  swap : ∀ a b, order a b = (order b a).swap
  trans : ∀ a b c, (order a b).isLE → (order b c).isLE → (order a c).isLE
  tie : ∀ a b, order a b = .eq ↔ same a b

theorem isPreorder_of_transCmp [TransCmp order] (h : ∀ a b, order a b = .eq ↔ same a b) :
    IsPreorder order same :=
  ⟨fun _ _ => OrientedCmp.eq_swap, fun _ _ _ => TransCmp.isLE_trans, h⟩

theorem isPreorder_eq [TransCmp order] [LawfulEqCmp order] : IsPreorder order Eq :=
  isPreorder_of_transCmp fun _ _ => LawfulEqCmp.compare_eq_iff_eq

theorem IsPreorder.transCmp (h : IsPreorder order same) : TransCmp order where
  eq_swap := h.swap _ _
  isLE_trans := h.trans _ _ _

theorem IsPreorder.lawfulEqCmp (h : IsPreorder order Eq) : LawfulEqCmp order where
  compare_self := (h.tie _ _).mpr rfl
  eq_of_compare := (h.tie _ _).mp

/-- The text with its ASCII capitals made small. -/
def lower (text : String) : String := String.ofList (Ascii.fold text.toList)

/-- Byte order of texts without their ASCII capitals. -/
def caseless : Collator := fun a b => plain (lower a) (lower b)

theorem toNat_smallByte (b : UInt8) :
    (smallByte b).toNat =
      if 65 ≤ b.toNat ∧ b.toNat ≤ 90 then b.toNat + 32 else b.toNat := by
  have hrange : (65 ≤ b && b ≤ 90) ↔ 65 ≤ b.toNat ∧ b.toNat ≤ 90 := by
    simp [UInt8.le_iff_toNat_le]
  by_cases h : 65 ≤ b.toNat ∧ b.toNat ≤ 90
  · rw [smallByte, if_pos (hrange.mpr h), if_pos h, UInt8.toNat_add]
    exact Nat.mod_eq_of_lt (Nat.lt_of_le_of_lt (Nat.add_le_add_right h.2 32) (by decide))
  · rw [smallByte, if_neg (mt hrange.mp h), if_neg h]

theorem smallByte_of_wide {b : UInt8} (h : 128 ≤ b.toNat) : smallByte b = b := by
  rw [← UInt8.toNat_inj, toNat_smallByte, if_neg (by omega)]

/-- A character is made small byte by byte. -/
theorem map_smallByte_encodeChar (c : Char) :
    (String.utf8EncodeChar c).map smallByte = String.utf8EncodeChar c.toLower := by
  have hlower := toNat_toLower c
  by_cases h : c.toNat < 128
  · have hsmall : c.toLower.toNat < 128 := by split at hlower <;> omega
    have hbyte : (UInt8.ofNat c.toNat).toNat = c.toNat := by
      rw [UInt8.toNat_ofNat', Nat.mod_eq_of_lt (by omega)]
    rw [Utf8.encodeChar_ascii h, Utf8.encodeChar_ascii hsmall, List.map_singleton,
      List.singleton_inj, ← UInt8.toNat_inj, toNat_smallByte, hbyte, ← hlower, UInt8.toNat_ofNat',
      Nat.mod_eq_of_lt (by omega)]
  · have hsame : c.toLower = c := by
      rw [← Char.toNat_inj, hlower]
      split <;> omega
    obtain ⟨lead, tail, hbytes, hlead, htail⟩ := Utf8.encodeChar_wide (Nat.le_of_not_lt h)
    have hwide : ∀ b ∈ lead :: tail, smallByte b = b := by
      refine List.forall_mem_cons.mpr ⟨smallByte_of_wide (by omega), fun b hb => ?_⟩
      exact smallByte_of_wide (htail b hb).1
    rw [hsame, hbytes, List.map_congr_left hwide, List.map_id']

theorem encode_lower (text : String) :
    Utf8.encode (lower text) = (Utf8.encode text).map smallByte := by
  rw [lower, Utf8.encode_ofList, Utf8.encode, Ascii.fold]
  simp [List.map_flatMap, List.flatMap_map, map_smallByte_encodeChar]

theorem ascii_eq (a b : String) : ascii a b = (caseless a b).then (plain a b) := by
  rw [caseless, plain, encode_lower, encode_lower]
  rfl

instance : TransCmp caseless := transCmp_on plain lower

theorem caseless_tie (a b : String) : caseless a b = .eq ↔ Ascii.same a.toList b.toList := by
  rw [caseless, LawfulEqCmp.compare_eq_iff_eq, Ascii.same_iff, ← String.toList_inj]
  simp [lower]

/-- As a listing is read, a collator plays no part. -/
theorem isPreorder_entries_none (collator : Collator) :
    IsPreorder (entries .none collator) fun e f => e.2 = f.2 := by
  have hascii : entries .none collator = entries .none ascii := rfl
  rw [hascii]
  refine isPreorder_of_transCmp fun e f => ?_
  rw [entries_tie]
  simp [names]

/-- Byte order without regard to case, refined by byte order, is linear on all texts. So by any
linear order of texts the entries of a listing are in an order that leaves undecided only what has
one name and is of one kind, be it by that order or with numbers by value, and companions in one
that leaves undecided only what has one priority and one path. A listing as it is read has the
directories first and no other order. -/
theorem comparisons_lawful :
    IsPreorder ascii Eq ∧
    IsPreorder caseless (fun a b => Ascii.same a.toList b.toList) ∧
    (∀ a b, caseless a b ≠ .eq → ascii a b = caseless a b) ∧
    (∀ collator, IsPreorder (entries .none collator) fun e f => e.2 = f.2) ∧
    ∀ collator, IsPreorder collator Eq →
      IsPreorder (entries .version collator) Eq ∧ IsPreorder (entries .collate collator) Eq ∧
      IsPreorder (companions collator) fun a b => a.priority = b.priority ∧ a.path = b.path := by
  refine ⟨isPreorder_eq, isPreorder_of_transCmp caseless_tie, ?_, isPreorder_entries_none, ?_⟩
  · intro a b h
    rw [ascii_eq]
    cases hc : caseless a b with
    | eq => exact absurd hc h
    | lt => rfl
    | gt => rfl
  · intro collator h
    have := h.transCmp
    have := h.lawfulEqCmp
    exact ⟨isPreorder_of_transCmp fun _ _ => entries_eq_iff (by decide),
      isPreorder_of_transCmp fun _ _ => entries_eq_iff (by decide),
      isPreorder_of_transCmp fun _ _ => companions_tie⟩

/-- A collator that turns byte order around. -/
theorem comparisons_lawful_reversed :
    let collator : Collator := fun a b => plain b a
    IsPreorder collator Eq ∧
      IsPreorder (entries .version collator) Eq ∧ IsPreorder (entries .collate collator) Eq ∧
      IsPreorder (companions collator) fun a b => a.priority = b.priority ∧ a.path = b.path := by
  intro collator
  have hplain : IsPreorder plain Eq := isPreorder_eq
  have hlinear : IsPreorder collator Eq :=
    ⟨fun a b => hplain.swap b a, fun a b c hab hbc => hplain.trans c b a hbc hab,
      fun a b => (hplain.tie b a).trans eq_comm⟩
  exact ⟨hlinear, comparisons_lawful.2.2.2.2 collator hlinear⟩

end TrackFinder.Order
