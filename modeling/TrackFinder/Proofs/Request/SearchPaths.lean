import TrackFinder.Request
import TrackFinder.Proofs.Text.Blank
import TrackFinder.Proofs.Text.Cut

/-! A list of search paths is read back as it was written. Blanks around its items and blank items
do not count. -/
namespace TrackFinder.Request

open Text

/-- What can stand in a list: a text with no comma in it and no blank at its ends. -/
structure IsItem (item : String) : Prop where
  ne_empty : item ≠ ""
  no_comma : ',' ∉ item.toList
  tight : IsTight item.toList

/-- Pieces that write down items, with blanks around each, and blank pieces among them. -/
inductive Spells : List (List Char) → List String → Prop
  | done : Spells [] []
  | blank {piece pieces items} (hp : ∀ c ∈ piece, isBlank c) (h : Spells pieces items) :
    Spells (piece :: pieces) items
  | item {front back pieces item items} (hf : ∀ c ∈ front, isBlank c)
    (hb : ∀ c ∈ back, isBlank c) (h : Spells pieces items) :
    Spells ((front ++ item.toList ++ back) :: pieces) (item :: items)

variable {piece : List Char} {pieces : List (List Char)} {item list : String} {items : List String}

/-- The item that a piece holds, unless it is blank. -/
def itemOf? (piece : List Char) : Option String :=
  if trim piece = [] then none else some (String.ofList (trim piece))

theorem searchPathsOf_eq (list : String) :
    searchPathsOf list = (list.toList.splitOn ',').filterMap itemOf? := by
  rw [searchPathsOf, commaItems, List.filterMap_map]
  rfl

theorem itemOf?_eq_none : itemOf? piece = none ↔ ∀ c ∈ piece, isBlank c := by
  constructor
  · intro h
    obtain ⟨-, front, back, hpiece, hfront, hback⟩ := isInside_trim piece
    have hnil : trim piece = [] := by simpa [itemOf?] using h
    rw [hnil, List.append_nil] at hpiece
    rw [hpiece]
    intro c hc
    exact (List.mem_append.mp hc).elim (hfront c) (hback c)
  · intro h
    rw [itemOf?, if_pos (trim_of_blanks h)]

theorem itemOf?_eq_some :
    itemOf? piece = some item ↔ item ≠ "" ∧ IsInside item.toList piece := by
  rw [← trim_eq_iff, itemOf?]
  constructor
  · intro h
    split at h
    · cases h
    · rename_i hne
      obtain rfl := Option.some.inj h
      rw [String.toList_ofList]
      exact ⟨fun he => hne (by simpa using he), rfl⟩
  · rintro ⟨hne, htrim⟩
    rw [htrim, if_neg (by simpa using hne), String.ofList_toList]

/-- Pieces spell what is read from them. -/
theorem spells_filterMap (pieces : List (List Char)) :
    Spells pieces (pieces.filterMap itemOf?) := by
  induction pieces with
  | nil => exact .done
  | cons piece pieces ih =>
    cases h : itemOf? piece with
    | none =>
      rw [List.filterMap_cons_none h]
      exact .blank (itemOf?_eq_none.mp h) ih
    | some item =>
      obtain ⟨-, -, front, back, rfl, hfront, hback⟩ := itemOf?_eq_some.mp h
      rw [List.filterMap_cons_some h]
      exact .item hfront hback ih

namespace Spells

/-- What is read from pieces is what they spell. -/
theorem filterMap_eq (h : Spells pieces items) (hitems : ∀ item ∈ items, IsItem item) :
    pieces.filterMap itemOf? = items := by
  induction h with
  | done => rfl
  | blank hp _ ih =>
    rw [List.filterMap_cons_none (itemOf?_eq_none.mpr hp), ih hitems]
  | item hf hb _ ih =>
    obtain ⟨hitem, hitems⟩ := List.forall_mem_cons.mp hitems
    have hpiece := itemOf?_eq_some.mpr ⟨hitem.ne_empty, hitem.tight, _, _, rfl, hf, hb⟩
    rw [List.filterMap_cons_some hpiece, ih hitems]

theorem no_comma (h : Spells pieces items) (hitems : ∀ item ∈ items, IsItem item) :
    ∀ piece ∈ pieces, ',' ∉ piece := by
  have hcomma : ∀ {row : List Char}, (∀ c ∈ row, isBlank c) → ',' ∉ row := by
    intro row hrow hmem
    exact absurd (hrow _ hmem) (by decide)
  induction h with
  | done => simp
  | blank hp _ ih => exact List.forall_mem_cons.mpr ⟨hcomma hp, ih hitems⟩
  | item hf hb _ ih =>
    obtain ⟨hitem, hitems⟩ := List.forall_mem_cons.mp hitems
    refine List.forall_mem_cons.mpr ⟨?_, ih hitems⟩
    simpa [hcomma hf, hcomma hb] using hitem.no_comma

/-- Items written without anything besides. -/
theorem plain (items : List String) : Spells (items.map String.toList) items := by
  induction items with
  | nil => exact .done
  | cons item items ih =>
    have h : Spells (([] ++ item.toList ++ []) :: items.map String.toList) (item :: items) :=
      .item (by simp) (by simp) ih
    simpa using h

end Spells

theorem isItem_of_mem (h : item ∈ searchPathsOf list) : IsItem item := by
  rw [searchPathsOf_eq] at h
  obtain ⟨piece, hpiece, hitem⟩ := List.mem_filterMap.mp h
  obtain ⟨hne, htight, front, back, hsplit, -, -⟩ := itemOf?_eq_some.mp hitem
  refine ⟨hne, fun hc => ?_, htight⟩
  have hmem : ',' ∈ piece := by simp [hsplit, hc]
  exact not_of_mem_splitOnP hpiece ',' hmem (by decide)

/-- Whatever spells items is read as these items. -/
theorem searchPathsOf_of_spells (h : Spells pieces items) (hitems : ∀ item ∈ items, IsItem item)
    (hlist : list.toList = [','].intercalate pieces) : searchPathsOf list = items := by
  rw [searchPathsOf_eq, hlist]
  cases pieces with
  | nil =>
    cases h
    rfl
  | cons piece pieces =>
    rw [List.splitOn_intercalate _ (h.no_comma hitems) (by simp), h.filterMap_eq hitems]

theorem searchPathsOf_eq_iff :
    searchPathsOf list = items ↔ (∀ item ∈ items, IsItem item) ∧
      ∃ pieces, list.toList = [','].intercalate pieces ∧ Spells pieces items := by
  constructor
  · rintro rfl
    refine ⟨fun _ => isItem_of_mem, list.toList.splitOn ',', ?_, ?_⟩
    · exact (List.intercalate_splitOn ',').symm
    · rw [searchPathsOf_eq]
      exact spells_filterMap _
  · rintro ⟨hitems, pieces, hlist, h⟩
    exact searchPathsOf_of_spells h hitems hlist

theorem searchPathsOf_intercalate (hitems : ∀ item ∈ items, IsItem item) :
    searchPathsOf (",".intercalate items) = items :=
  searchPathsOf_of_spells (Spells.plain items) hitems String.toList_intercalate

theorem searchPathsOf_append (first second : String) :
    searchPathsOf (first ++ "," ++ second) = searchPathsOf first ++ searchPathsOf second := by
  have hlist : (first ++ "," ++ second).toList = first.toList ++ ',' :: second.toList := by simp
  rw [searchPathsOf_eq, hlist, List.splitOn_append_cons_self, List.filterMap_append,
    ← searchPathsOf_eq, ← searchPathsOf_eq]

/-- A list is read as items just if these are proper items and the list spells them, with whatever
blanks and blank pieces besides. So items joined by commas are read back, what was read is read
back, and a comma between two lists adds the one to the other. -/
theorem searchPathsOf_exact (list first second : String) (items : List String) :
    (∀ item ∈ searchPathsOf list, IsItem item) ∧
    (searchPathsOf list = items ↔ (∀ item ∈ items, IsItem item) ∧
      ∃ pieces, list.toList = [','].intercalate pieces ∧ Spells pieces items) ∧
    ((∀ item ∈ items, IsItem item) → searchPathsOf (",".intercalate items) = items) ∧
    searchPathsOf (",".intercalate (searchPathsOf list)) = searchPathsOf list ∧
    searchPathsOf (first ++ "," ++ second) = searchPathsOf first ++ searchPathsOf second :=
  ⟨fun _ => isItem_of_mem, searchPathsOf_eq_iff, searchPathsOf_intercalate,
    searchPathsOf_intercalate fun _ => isItem_of_mem, searchPathsOf_append first second⟩

theorem searchPathsOf_exact_spaced :
    (∀ item ∈ ["./Subs", "/my subs"], IsItem item) ∧
    searchPathsOf " ./Subs ,, /my subs" = ["./Subs", "/my subs"] ∧
    searchPathsOf (",".intercalate ["./Subs", "/my subs"]) = ["./Subs", "/my subs"] := by
  have hitems : ∀ item ∈ ["./Subs", "/my subs"], IsItem item := by
    simp only [List.forall_mem_cons]
    exact ⟨⟨by decide, by decide, by simp [isBlank], by simp [isBlank]⟩,
      ⟨by decide, by decide, by simp [isBlank], by simp [isBlank]⟩, by simp⟩
  have hspells : Spells [[' '] ++ "./Subs".toList ++ [' '], [], [' '] ++ "/my subs".toList ++ []]
      ["./Subs", "/my subs"] :=
    .item (by simp [isBlank]) (by simp [isBlank]) <| .blank (by simp) <|
      .item (by simp [isBlank]) (by simp) .done
  have h := searchPathsOf_exact " ./Subs ,, /my subs" "" "" ["./Subs", "/my subs"]
  exact ⟨hitems, h.2.1.mpr ⟨hitems, _, by decide, hspells⟩, h.2.2.1 hitems⟩

end TrackFinder.Request
