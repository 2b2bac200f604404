import TrackFinder.Text

/-! A text without the blanks around it: there is one such part of it, and trimming gives it. -/
namespace TrackFinder.Text

variable {text inner front back : List Char}

/-- No blank at either end. -/
structure IsTight (text : List Char) : Prop where
  first : ∀ c ∈ text.head?, ¬ isBlank c
  last : ∀ c ∈ text.getLast?, ¬ isBlank c

/-- `inner` is `text` without the blanks around it. -/
structure IsInside (inner text : List Char) : Prop where
  tight : IsTight inner
  around : ∃ front back, text = front ++ inner ++ back ∧ (∀ c ∈ front, isBlank c) ∧
    ∀ c ∈ back, isBlank c

theorem dropWhile_blanks (hf : ∀ c ∈ front, isBlank c) (h : ∀ c ∈ text.head?, ¬ isBlank c) :
    (front ++ text).dropWhile isBlank = text := by
  rw [List.dropWhile_append_of_pos hf]
  cases text with
  | nil => rfl
  | cons c text => exact List.dropWhile_cons_of_neg (h c rfl)

theorem trim_of_blanks (h : ∀ c ∈ text, isBlank c) : trim text = [] := by
  have hnil : (text ++ []).dropWhile isBlank = [] := dropWhile_blanks h (by simp)
  rw [List.append_nil] at hnil
  rw [trim, hnil]
  rfl

/-- Trimming takes away just what is blank around a text without blanks at its ends. -/
theorem trim_around (hf : ∀ c ∈ front, isBlank c) (hb : ∀ c ∈ back, isBlank c)
    (h : IsTight inner) : trim (front ++ inner ++ back) = inner := by
  cases inner with
  | nil =>
    rw [List.append_nil]
    exact trim_of_blanks fun c hc => (List.mem_append.mp hc).elim (hf c) (hb c)
  | cons c inner =>
    have hreverse : ∀ c ∈ back.reverse, isBlank c := fun c hc => hb c (List.mem_reverse.mp hc)
    have hlast : ∀ d ∈ (c :: inner).reverse.head?, ¬ isBlank d := by
      rw [List.head?_reverse]
      exact h.last
    have hfront : (front ++ (c :: inner ++ back)).dropWhile isBlank = c :: inner ++ back :=
      dropWhile_blanks hf h.first
    rw [trim, List.append_assoc, hfront, List.reverse_append, dropWhile_blanks hreverse hlast,
      List.reverse_reverse]

/-- A text starts with the blanks that are dropped from it. -/
theorem exists_front (text : List Char) : ∃ front, text = front ++ text.dropWhile isBlank ∧
    (∀ c ∈ front, isBlank c) ∧ ∀ c ∈ (text.dropWhile isBlank).head?, ¬ isBlank c := by
  refine ⟨text.takeWhile isBlank, List.takeWhile_append_dropWhile.symm, ?_, ?_⟩
  · intro c hc
    exact List.all_eq_true.mp List.all_takeWhile c hc
  · intro c hc
    have hhead := List.head?_dropWhile_not isBlank text
    rw [Option.mem_def.mp hc] at hhead
    simpa using hhead

theorem isInside_trim (text : List Char) : IsInside (trim text) text := by
  obtain ⟨front, htext, hfront, hfirst⟩ := exists_front text
  obtain ⟨back, hrest, hback, hlast⟩ := exists_front (text.dropWhile isBlank).reverse
  have hinner : text.dropWhile isBlank = trim text ++ back.reverse := by
    rw [trim, ← List.reverse_append, ← hrest, List.reverse_reverse]
  refine ⟨⟨?_, ?_⟩, front, back.reverse, ?_, hfront, ?_⟩
  · intro c hc
    apply hfirst c
    rw [hinner, List.head?_append, Option.mem_def.mp hc]
    rfl
  · intro c hc
    apply hlast c
    rwa [trim, List.getLast?_reverse] at hc
  · rw [List.append_assoc, ← hinner, ← htext]
  · intro c hc
    exact hback c (List.mem_reverse.mp hc)

/-- A text has one inside, and trimming leaves it. -/
theorem trim_eq_iff : trim text = inner ↔ IsInside inner text := by
  constructor
  · rintro rfl
    exact isInside_trim text
  · rintro ⟨htight, front, back, rfl, hfront, hback⟩
    exact trim_around hfront hback htight

end TrackFinder.Text
