import Mathlib.Data.Nat.Digits.Defs
import TrackFinder.Text

/-! Reading a text as a whole number gives the number that it writes in decimal, at any length. -/
namespace TrackFinder.Text

/-- One digit or more, and nothing else. -/
structure IsDigits (digits : List Char) : Prop where
  ne_nil : digits ≠ []
  digit : ∀ c ∈ digits, c.isDigit

/-- The number that digits write, of which the last counts the units. -/
def value (digits : List Char) : Nat := Nat.ofDigits 10 (digits.map fun c => c.toNat - 48).reverse

/-- `text` is a decimal numeral for a number, with a sign in front or none. -/
inductive Writes : List Char → Int → Prop
  | plain {digits} (h : IsDigits digits) : Writes digits (value digits)
  | plus {digits} (h : IsDigits digits) : Writes ('+' :: digits) (value digits)
  | minus {digits} (h : IsDigits digits) : Writes ('-' :: digits) (-value digits)

variable {text digits : List Char} {n : Int}

theorem digitsFrom_eq_value (digits : List Char) : digitsFrom 0 digits = value digits := by
  rw [value, Nat.ofDigits_eq_foldr, List.foldr_reverse, List.foldl_map, digitsFrom]
  simp only [Nat.add_comm]
  rfl

theorem natural?_eq_some {m : Nat} :
    natural? text = some m ↔ IsDigits text ∧ value text = m := by
  rw [natural?, digitsFrom_eq_value]
  constructor
  · intro h
    split at h
    · cases h
    · rename_i hdigits
      obtain ⟨hne, hall⟩ : text ≠ [] ∧ ∀ c ∈ text, c.isDigit := by simpa using hdigits
      exact ⟨⟨hne, hall⟩, Option.some.inj h⟩
  · rintro ⟨⟨hne, hall⟩, rfl⟩
    rw [if_neg]
    simpa [hne] using hall

theorem map_natural?_eq_some {f : Nat → Int} :
    (natural? text).map f = some n ↔ IsDigits text ∧ f (value text) = n := by
  rw [Option.map_eq_some_iff]
  constructor
  · rintro ⟨m, hm, rfl⟩
    obtain ⟨hdigits, rfl⟩ := natural?_eq_some.mp hm
    exact ⟨hdigits, rfl⟩
  · rintro ⟨hdigits, rfl⟩
    exact ⟨_, natural?_eq_some.mpr ⟨hdigits, rfl⟩, rfl⟩

/-- No sign is a digit, so a numeral is read in one way only. -/
theorem integer?_eq_some : integer? text = some n ↔ Writes text n := by
  constructor
  · intro h
    unfold integer? at h
    split at h <;> obtain ⟨hdigits, rfl⟩ := map_natural?_eq_some.mp h
    · exact .plus hdigits
    · exact .minus hdigits
    · exact .plain hdigits
  · intro h
    cases h with
    | plain h =>
      unfold integer?
      split
      · exact absurd (h.digit '+' (List.mem_cons_self ..)) (by decide)
      · exact absurd (h.digit '-' (List.mem_cons_self ..)) (by decide)
      · exact map_natural?_eq_some.mpr ⟨h, rfl⟩
    | plus h => exact map_natural?_eq_some.mpr ⟨h, rfl⟩
    | minus h => exact map_natural?_eq_some.mpr ⟨h, rfl⟩

theorem int64?_eq_some :
    int64? text = some n ↔ Writes text n ∧ -2 ^ 63 ≤ n ∧ n < 2 ^ 63 := by
  rw [int64?, Option.filter_eq_some_iff, integer?_eq_some]
  refine and_congr_right fun _ => ?_
  rw [Bool.and_eq_true, decide_eq_true_eq, decide_eq_true_eq]
  omega

end TrackFinder.Text
