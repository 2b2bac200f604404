import Mathlib.Data.Nat.Digits.Defs
import TrackFinder.Proofs.Order.Version

/-! Comparing digit runs without their leading zeros, first by length and then byte by byte,
compares the numbers they write, however long the runs are. -/
namespace TrackFinder.Order

variable {a b : List UInt8} {x y : UInt8}

def IsNumeral (run : List UInt8) : Prop := ∀ x ∈ run, isDigit x

instance : Decidable (IsNumeral a) := inferInstanceAs (Decidable (∀ x ∈ a, isDigit x))

/-- The number that a run of digits writes in decimal. -/
def value (run : List UInt8) : Nat := Nat.ofDigits 10 (run.map fun x => x.toNat - 48).reverse

@[simp] theorem isNumeral_cons : IsNumeral (x :: a) ↔ isDigit x ∧ IsNumeral a := by
  simp [IsNumeral]

theorem value_cons (x : UInt8) (a : List UInt8) :
    value (x :: a) = value a + 10 ^ a.length * (x.toNat - 48) := by
  rw [value, List.map_cons, Nat.ofDigits_reverse_cons, List.length_map]
  rfl

theorem value_lt (ha : IsNumeral a) : value a < 10 ^ a.length := by
  have hdigit : ∀ n ∈ (a.map fun x => x.toNat - 48).reverse, n < 10 := by
    intro n hn
    obtain ⟨x, hx, rfl⟩ := List.mem_map.mp (List.mem_reverse.mp hn)
    have := isDigit_iff.mp (ha x hx)
    omega
  simpa [value] using Nat.ofDigits_lt_base_pow_length (by decide) hdigit

/-- The first digit in which two runs of one length differ decides between their numbers. -/
theorem value_lt_of_first (hl : a.length = b.length) (ha : IsNumeral a) (hx : isDigit x)
    (h : x.toNat < y.toNat) : value (x :: a) < value (y :: b) := by
  have hx := isDigit_iff.mp hx
  rw [value_cons, value_cons, ← hl]
  calc value a + 10 ^ a.length * (x.toNat - 48)
      < 10 ^ a.length + 10 ^ a.length * (x.toNat - 48) := Nat.add_lt_add_right (value_lt ha) _
    _ = 10 ^ a.length * (x.toNat - 48 + 1) := by rw [Nat.mul_succ, Nat.add_comm]
    _ ≤ 10 ^ a.length * (y.toNat - 48) := Nat.mul_le_mul_left _ (by omega)
    _ ≤ value b + 10 ^ a.length * (y.toNat - 48) := Nat.le_add_left _ _

/-- Runs of one length compare byte by byte as their numbers do. -/
theorem bytes_eq_compare_value (hl : a.length = b.length) (ha : IsNumeral a) (hb : IsNumeral b) :
    bytes a b = compare (value a) (value b) := by
  induction a generalizing b with
  | nil =>
    rw [List.length_eq_zero_iff.mp hl.symm]
    rfl
  | cons x a ih =>
    obtain ⟨y, b, rfl⟩ := List.exists_cons_of_length_eq_add_one hl.symm
    obtain ⟨hx, ha⟩ := isNumeral_cons.mp ha
    obtain ⟨hy, hb⟩ := isNumeral_cons.mp hb
    have hl : a.length = b.length := Nat.succ.inj hl
    rw [bytes, ih hl ha hb]
    rcases Nat.lt_trichotomy x.toNat y.toNat with h | h | h
    · rw [Nat.compare_eq_lt.mpr h, Nat.compare_eq_lt.mpr (value_lt_of_first hl ha hx h)]
      rfl
    · rw [Nat.compare_eq_eq.mpr h, value_cons, value_cons, h, hl]
      simp only [Ordering.eq_then, Nat.compare_eq_ite_lt, Nat.add_lt_add_iff_right]
    · rw [Nat.compare_eq_gt.mpr h, Nat.compare_eq_gt.mpr (value_lt_of_first hl.symm hb hy h)]
      rfl

/-- Of numbers written without leading zeros the longer is the greater. -/
theorem value_lt_of_length_lt (ha : IsNumeral a) (hb : IsNumeral (y :: b)) (hy : y ≠ 48)
    (h : a.length < (y :: b).length) : value a < value (y :: b) := by
  have hdigit := isDigit_iff.mp (isNumeral_cons.mp hb).1
  have hpositive : y.toNat ≠ 48 := fun he => hy (UInt8.toNat_inj.mp he)
  have hshort : a.length ≤ b.length := Nat.le_of_lt_succ h
  calc value a < 10 ^ a.length := value_lt ha
    _ ≤ 10 ^ b.length := Nat.pow_le_pow_right (by decide) hshort
    _ ≤ 10 ^ b.length * (y.toNat - 48) := Nat.le_mul_of_pos_right _ (by omega)
    _ ≤ value (y :: b) := by rw [value_cons]; exact Nat.le_add_left _ _

/-- A run without its leading zeros. -/
def significant (run : List UInt8) : List UInt8 := run.dropWhile (· == 48)

theorem isNumeral_significant (ha : IsNumeral a) : IsNumeral (significant a) :=
  fun x hx => ha x ((List.dropWhile_sublist _).subset hx)

theorem value_significant (a : List UInt8) : value (significant a) = value a := by
  induction a with
  | nil => rfl
  | cons x a ih =>
    by_cases hx : x = 48
    · subst hx
      rw [value_cons, ← ih]
      simp [significant]
    · simp [significant, hx]

theorem significant_eq_cons (h : significant a = y :: b) : y ≠ 48 := by
  have hhead := List.head?_dropWhile_not (· == 48) a
  rw [← significant, h] at hhead
  simpa using hhead

theorem value_lt_of_significant_lt (ha : IsNumeral a) (hb : IsNumeral b)
    (h : (significant a).length < (significant b).length) : value a < value b := by
  have ha := isNumeral_significant ha
  have hb := isNumeral_significant hb
  rw [← value_significant a, ← value_significant b]
  cases hs : significant b with
  | nil => simp [hs] at h
  | cons y b' =>
    rw [hs] at h hb
    exact value_lt_of_length_lt ha hb (significant_eq_cons hs) h

/-- Digit runs compare by their numbers, and runs of one number by their zeros. -/
theorem digits_eq_compare_value (ha : IsNumeral a) (hb : IsNumeral b) :
    digits a b = (compare (value a) (value b)).then (compare b.length a.length) := by
  have hdef : digits a b = ((compare (significant a).length (significant b).length).then
      (bytes (significant a) (significant b))).then (compare b.length a.length) := rfl
  rw [hdef]
  rcases Nat.lt_trichotomy (significant a).length (significant b).length with h | h | h
  · rw [Nat.compare_eq_lt.mpr h, Nat.compare_eq_lt.mpr (value_lt_of_significant_lt ha hb h)]
    rfl
  · rw [Nat.compare_eq_eq.mpr h, bytes_eq_compare_value h (isNumeral_significant ha)
      (isNumeral_significant hb), value_significant, value_significant]
    rfl
  · rw [Nat.compare_eq_gt.mpr h, Nat.compare_eq_gt.mpr (value_lt_of_significant_lt hb ha h)]
    rfl

/-- Only a run itself has its number and its length. -/
theorem eq_of_value_eq (ha : IsNumeral a) (hb : IsNumeral b) (hv : value a = value b)
    (hl : a.length = b.length) : a = b := by
  have h := bytes_eq_compare_value hl ha hb
  rw [Nat.compare_eq_eq.mpr hv] at h
  exact Std.LawfulEqCmp.eq_of_compare h

end TrackFinder.Order
