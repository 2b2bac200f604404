import TrackFinder.Settings
import TrackFinder.Proofs.Text.Blank
import TrackFinder.Proofs.Text.Decimal

/-! The threshold that variables set, whatever they hold, and where it is carried. -/
namespace TrackFinder

open Text

namespace Threshold

variable {level : Int}

theorem ofLevel_rank {p : Priority} (hp : p ≠ .none) : ofLevel p.rank = .ok (atLeast p) := by
  cases p with
  | none => exact absurd rfl hp
  | matchNone => rfl
  | matchRight => rfl
  | matchLeft => rfl
  | matchAll => rfl

theorem ofLevel_of_outside (h : level < 0 ∨ 4 < level) :
    ofLevel level = .error (.invalidLevel level) := by
  rw [ofLevel]
  split
  · rfl
  · obtain ⟨n, hn⟩ : ∃ n, level.toNat = n + 5 := ⟨level.toNat - 5, by omega⟩
    rw [hn]
    rfl

/-- A level turns the search off, is the rank of a priority, or is none. -/
theorem level_cases (level : Int) :
    level = 0 ∨ (∃ p : Priority, p ≠ .none ∧ level = p.rank) ∨ level < 0 ∨ 4 < level := by
  have h : level = 0 ∨ level = 1 ∨ level = 2 ∨ level = 3 ∨ level = 4 ∨ level < 0 ∨ 4 < level := by
    omega
  rcases h with h | rfl | rfl | rfl | rfl | h
  · exact .inl h
  · exact .inr (.inl ⟨.matchNone, by decide, rfl⟩)
  · exact .inr (.inl ⟨.matchRight, by decide, rfl⟩)
  · exact .inr (.inl ⟨.matchLeft, by decide, rfl⟩)
  · exact .inr (.inl ⟨.matchAll, by decide, rfl⟩)
  · exact .inr (.inr h)

end Threshold

namespace Settings

/-- The threshold of a variable: without blanks around it, it writes 0, the rank of a priority, or
no level at all. -/
inductive Sets : Option String → Threshold → Prop
  | absent : Sets none .standard
  | off {text inner} (hi : IsInside inner text.toList) (h : Writes inner 0) :
    Sets (some text) .disabled
  | level {text inner} {p : Priority} (hi : IsInside inner text.toList) (hp : p ≠ .none)
    (h : Writes inner p.rank) : Sets (some text) (.atLeast p)
  | unknown {text inner} (hi : IsInside inner text.toList)
    (h : ∀ n, Writes inner n → n < 0 ∨ 4 < n) : Sets (some text) .standard

variable {text : String} {level : Int} {threshold : Threshold} {valueOf? : String → Option String}

theorem value_thresholdOf_of_ok (h : int64? (trim text.toList) = some level)
    (hok : Threshold.ofLevel level = .ok threshold) : (thresholdOf text).value = threshold := by
  simp only [thresholdOf, h, hok]
  rfl

theorem value_thresholdOf_of_outside
    (h : ∀ level, int64? (trim text.toList) = some level → level < 0 ∨ 4 < level) :
    (thresholdOf text).value = .standard := by
  cases hread : int64? (trim text.toList) with
  | none =>
    simp only [thresholdOf, hread]
    rfl
  | some level =>
    simp only [thresholdOf, hread, Threshold.ofLevel_of_outside (h level hread)]
    rfl

/-- The threshold that a text sets is the one that is read from it. -/
theorem Sets.value_eq (h : Sets (some text) threshold) : (thresholdOf text).value = threshold := by
  cases h with
  | off hi h =>
    rw [← trim_eq_iff] at hi
    exact value_thresholdOf_of_ok (int64?_eq_some.mpr ⟨hi ▸ h, by decide⟩) rfl
  | level hi hp h =>
    rename_i p
    rw [← trim_eq_iff] at hi
    have hrank : p.rank ≤ 4 := by cases p <;> decide
    exact value_thresholdOf_of_ok (int64?_eq_some.mpr ⟨hi ▸ h, by omega⟩)
      (Threshold.ofLevel_rank hp)
  | unknown hi h =>
    rw [← trim_eq_iff] at hi
    exact value_thresholdOf_of_outside fun n hn => h n (hi ▸ (int64?_eq_some.mp hn).1)

/-- Every text sets some threshold. A number beyond 64 bits is no level either way. -/
theorem exists_sets (text : String) : ∃ threshold, Sets (some text) threshold := by
  have hi := isInside_trim text.toList
  cases hread : integer? (trim text.toList) with
  | none =>
    refine ⟨_, .unknown hi fun n hn => ?_⟩
    rw [integer?_eq_some.mpr hn] at hread
    cases hread
  | some level =>
    have hwrites := integer?_eq_some.mp hread
    rcases Threshold.level_cases level with rfl | ⟨p, hp, rfl⟩ | houtside
    · exact ⟨_, .off hi hwrites⟩
    · exact ⟨_, .level hi hp hwrites⟩
    · refine ⟨_, .unknown hi fun n hn => ?_⟩
      obtain rfl : level = n := by simpa [hread] using integer?_eq_some.mpr hn
      exact houtside

theorem sets_thresholdOf (text : String) : Sets (some text) (thresholdOf text).value := by
  obtain ⟨threshold, h⟩ := exists_sets text
  rwa [h.value_eq]

/-- The threshold of the settings is the one that the variable sets, and only that one. -/
theorem sets_iff : Sets (valueOf? "SUB_AUTODETECT_FUZZY") threshold ↔
    (ofVariables valueOf?).value.threshold = threshold := by
  have hvalue : (ofVariables valueOf?).value.threshold =
      ((valueOf? "SUB_AUTODETECT_FUZZY").map fun text => (thresholdOf text).value).getD
        .standard := by
    rw [ofVariables]
    cases valueOf? "SUB_AUTODETECT_FUZZY" <;> rfl
  rw [hvalue]
  cases valueOf? "SUB_AUTODETECT_FUZZY" with
  | none =>
    constructor
    · rintro ⟨⟩
      rfl
    · rintro rfl
      exact .absent
  | some text =>
    constructor
    · exact Sets.value_eq
    · rintro rfl
      exact sets_thresholdOf text

theorem Sets.ne_none {value? : Option String} (h : Sets value? threshold) :
    threshold ≠ .atLeast .none := by
  rintro rfl
  cases h with
  | level _ hp _ => exact hp rfl

/-- The threshold is the one of the variable, with blanks, signs, leading zeros and numbers of any
size taken as they are written. It never asks for a companion without relation, and requests and
listings carry it unchanged. -/
theorem threshold_exact (valueOf? : String → Option String) (threshold : Threshold) (media : Path) :
    let settings := (ofVariables valueOf?).value
    (Sets (valueOf? "SUB_AUTODETECT_FUZZY") threshold ↔ settings.threshold = threshold) ∧
    settings.threshold ≠ .atLeast .none ∧
    (settings.request media).threshold = settings.threshold ∧
    settings.listingOptions.threshold = settings.threshold :=
  ⟨sets_iff, (sets_iff.mpr rfl).ne_none, rfl, rfl⟩

/-- A number past the range of 64 bits or of 8 bits sets nothing, and a zero may have a sign. -/
example :
    (thresholdOf "9223372036854775808").value = .standard ∧
    (thresholdOf "256").value = .standard ∧
    (thresholdOf "\u00a0-00 ").value = .disabled ∧
    (thresholdOf "+004").value = .atLeast .matchAll := by
  decide

end Settings

end TrackFinder
