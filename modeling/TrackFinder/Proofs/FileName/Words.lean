import TrackFinder.Proofs.FileName.Simplify
import TrackFinder.Proofs.Text.Utf8

/-! A text is simplified to its words, in small letters and with one space between them. So what is
left of it depends on its words alone, and is left as it is when it is simplified again. -/
namespace TrackFinder

variable {cs a b word : List Char} {ws : List (List Char)} {c : Char} {gap started : Bool}

namespace Ascii

/-- What stands between the characters of a text that are no ASCII letters or digits. -/
def pieces (text : List Char) : List (List Char) := text.splitOnP fun c => !c.isAlphanum

/-- The longest runs of ASCII letters and digits in a text, in order. -/
def words (text : List Char) : List (List Char) := (pieces text).filter (· ≠ [])

structure IsWord (word : List Char) : Prop where
  nonempty : word ≠ []
  alphanum : ∀ c ∈ word, c.isAlphanum

theorem exists_pieces (cs : List Char) : ∃ p ps, pieces cs = p :: ps :=
  List.exists_cons_of_ne_nil (List.splitOnP_ne_nil _ cs)

theorem pieces_of_alphanum (h : ∀ c ∈ cs, c.isAlphanum) : pieces cs = [cs] :=
  List.splitOnP_eq_singleton fun c hc => by rw [h c hc]; rfl

theorem pieces_append_gap (hc : ¬ c.isAlphanum) (a b : List Char) :
    pieces (a ++ c :: b) = pieces a ++ pieces b :=
  List.splitOnP_append_cons a b (by simp [hc])

theorem pieces_gap (hc : ¬ c.isAlphanum) (cs : List Char) : pieces (c :: cs) = [] :: pieces cs :=
  pieces_append_gap hc [] cs

theorem pieces_cons {p : List Char} {ps : List (List Char)} (hc : c.isAlphanum)
    (h : pieces cs = p :: ps) : pieces (c :: cs) = (c :: p) :: ps := by
  have hno : (!c.isAlphanum) = false := by rw [hc]; rfl
  rw [pieces] at h ⊢
  rw [List.splitOnP_cons_eq_if_modifyHead, hno, h]
  rfl

theorem words_gap (hc : ¬ c.isAlphanum) (cs : List Char) : words (c :: cs) = words cs := by
  rw [words, pieces_gap hc, List.filter_cons_of_neg (by simp), words]

theorem words_append_gap (hc : ¬ c.isAlphanum) (hw : IsWord word) (cs : List Char) :
    words (word ++ c :: cs) = word :: words cs := by
  rw [words, pieces_append_gap hc, pieces_of_alphanum hw.alphanum, List.singleton_append,
    List.filter_cons_of_pos (by simpa using hw.nonempty), words]

theorem isWord_of_mem_words (h : word ∈ words cs) : IsWord word := by
  obtain ⟨hmem, hne⟩ := List.mem_filter.mp h
  refine ⟨by simpa using hne, fun c hc => ?_⟩
  simpa using Text.not_of_mem_splitOnP hmem c hc

theorem IsWord.fold (h : IsWord word) : IsWord (fold word) := by
  constructor
  · simpa [Ascii.fold] using h.nonempty
  · intro c hc
    obtain ⟨d, hd, rfl⟩ := List.mem_map.mp hc
    rw [isAlphanum_toLower]
    exact h.alphanum d hd

theorem isWord_of_mem_folded (h : word ∈ (words cs).map Ascii.fold) : IsWord word := by
  obtain ⟨w, hw, rfl⟩ := List.mem_map.mp h
  exact (isWord_of_mem_words hw).fold

/-- Words with spaces between them are the words of what they make. -/
theorem words_intercalate (h : ∀ w ∈ ws, IsWord w) : words ([' '].intercalate ws) = ws := by
  induction ws with
  | nil => rfl
  | cons w ws ih =>
    obtain ⟨hw, hws⟩ := List.forall_mem_cons.mp h
    cases ws with
    | nil =>
      rw [List.intercalate_singleton, words, pieces_of_alphanum hw.alphanum]
      exact List.filter_cons_of_pos (by simpa using hw.nonempty)
    | cons w' ws =>
      rw [List.intercalate_cons_cons, List.append_assoc, List.singleton_append,
        words_append_gap (by decide) hw, ih hws]

theorem fold_fold (cs : List Char) : fold (fold cs) = fold cs := by
  have htwice : ∀ c : Char, c.toLower.toLower = c.toLower := by
    intro c
    rw [← Char.toNat_inj, toNat_toLower c.toLower, toNat_toLower c]
    grind
  simp [fold, htwice]

/-- The first word, and each further one behind a space. -/
theorem intercalate_space (word : List Char) (ws : List (List Char)) :
    [' '].intercalate (word :: ws) = word ++ ws.flatMap (' ' :: ·) := by
  induction ws generalizing word with
  | nil => simp
  | cons w ws ih => rw [List.intercalate_cons_cons, ih, List.flatMap_cons]; simp

end Ascii

open Ascii

/-- Once a word has been written, what is left of the rest begins with the letters that the word
goes on with, or, behind a gap, with a space before each word. -/
theorem simplifyFrom_started {p : List Char} {ps : List (List Char)} (h : pieces cs = p :: ps) :
    simplifyFrom false true cs =
        fold p ++ ((ps.filter (· ≠ [])).map fold).flatMap (' ' :: ·) ∧
      simplifyFrom true true cs = ((words cs).map fold).flatMap (' ' :: ·) := by
  -- A gap leads from the first form to the second, and a letter back to the first.
  induction cs generalizing p ps with
  | nil =>
    obtain ⟨rfl, rfl⟩ : [] = p ∧ [] = ps := by simpa [pieces] using h
    exact ⟨rfl, rfl⟩
  | cons c cs ih =>
    obtain ⟨q, qs, hq⟩ := exists_pieces cs
    obtain ⟨hword, hgap⟩ := ih hq
    by_cases hc : c.isAlphanum
    · obtain ⟨rfl, rfl⟩ : c :: q = p ∧ qs = ps := by
        simpa [pieces_cons hc hq] using h
      rw [words, pieces_cons hc hq, List.filter_cons_of_pos (by simp), simplifyFrom_cons hc,
        simplifyFrom_cons hc, hword]
      exact ⟨rfl, rfl⟩
    · obtain ⟨rfl, rfl⟩ : [] = p ∧ pieces cs = ps := by
        simpa [pieces_gap hc] using h
      rw [words_gap hc, simplifyFrom_cons_gap hc, simplifyFrom_cons_gap hc, hgap]
      exact ⟨rfl, rfl⟩

theorem simplifyFrom_eq_words (gap : Bool) (cs : List Char) :
    simplifyFrom gap false cs = [' '].intercalate ((words cs).map fold) := by
  induction cs generalizing gap with
  | nil => rfl
  | cons c cs ih =>
    by_cases hc : c.isAlphanum
    · obtain ⟨p, ps, hp⟩ := exists_pieces cs
      rw [words, pieces_cons hc hp, List.filter_cons_of_pos (by simp), List.map_cons,
        intercalate_space, simplifyFrom_cons hc, (simplifyFrom_started hp).1]
      simp [fold]
    · rw [simplifyFrom_cons_gap hc, words_gap hc, ih]

theorem words_simplifyFrom (cs : List Char) :
    words (simplifyFrom false false cs) = (words cs).map fold := by
  rw [simplifyFrom_eq_words]
  exact words_intercalate fun _ hw => isWord_of_mem_folded hw

theorem simplifyFrom_simplifyFrom (cs : List Char) :
    simplifyFrom false false (simplifyFrom false false cs) = simplifyFrom false false cs := by
  rw [simplifyFrom_eq_words, words_simplifyFrom, simplifyFrom_eq_words, List.map_map]
  congr 1
  exact List.map_congr_left fun w _ => fold_fold w

/-- Texts are simplified to the same if their words are the same up to case. -/
theorem simplifyFrom_inj :
    simplifyFrom false false a = simplifyFrom false false b ↔
      (words a).map fold = (words b).map fold := by
  constructor
  · intro h
    rw [← words_simplifyFrom, h, words_simplifyFrom]
  · intro h
    rw [simplifyFrom_eq_words, h, simplifyFrom_eq_words]

/-- Small letters and digits with single spaces between them. -/
structure IsSimple (text : List Char) : Prop where
  plain : ∀ c ∈ text, c = ' ' ∨ c.isLower ∨ c.isDigit
  first : text.head? ≠ some ' '
  last : text.getLast? ≠ some ' '
  single : ¬ [' ', ' '] <:+: text

theorem isLower_or_isDigit_toLower (h : c.isAlphanum) : c.toLower.isLower ∨ c.toLower.isDigit := by
  have hlower := toNat_toLower c
  rw [isAlphanum_iff] at h
  delta Char.isLower Char.isDigit
  simp only [ge_iff_le, UInt32.le_iff_toNat_le, Bool.and_eq_true, decide_eq_true_eq]
  change (97 ≤ c.toLower.toNat ∧ c.toLower.toNat ≤ 122) ∨
    (48 ≤ c.toLower.toNat ∧ c.toLower.toNat ≤ 57)
  split at hlower <;> omega

theorem plain_of_mem (h : c ∈ simplifyFrom gap started cs) : c = ' ' ∨ c.isLower ∨ c.isDigit := by
  induction cs generalizing gap started with
  | nil => cases h
  | cons d cs ih =>
    by_cases hd : d.isAlphanum
    · rw [simplifyFrom_cons hd, List.mem_append, List.mem_cons] at h
      rcases h with h | rfl | h
      · left
        split at h
        · exact List.mem_singleton.mp h
        · cases h
      · exact Or.inr (isLower_or_isDigit_toLower hd)
      · exact ih h
    · rw [simplifyFrom_cons_gap hd] at h
      exact ih h

/-- Between spaces there are words. -/
theorem nil_not_mem_splitOn (h : simplifyFrom false false cs = a ++ ' ' :: b) :
    [] ∉ a.splitOn ' ' ∧ [] ∉ b.splitOn ' ' := by
  have hwords : ∀ w ∈ (words cs).map fold, IsWord w := fun _ hw => isWord_of_mem_folded hw
  have hno : ∀ w ∈ (words cs).map fold, ' ' ∉ w := by
    intro w hw hspace
    exact absurd ((hwords w hw).alphanum ' ' hspace) (by decide)
  have hne : (words cs).map fold ≠ [] := by
    intro hnil
    rw [simplifyFrom_eq_words, hnil] at h
    simp at h
  have hcut := List.splitOn_intercalate ' ' hno hne
  rw [← simplifyFrom_eq_words false, h, List.splitOn_append_cons_self] at hcut
  rw [← not_or, ← List.mem_append, hcut]
  exact fun hnil => (hwords [] hnil).nonempty rfl

theorem isSimple_simplifyFrom (cs : List Char) : IsSimple (simplifyFrom false false cs) where
  plain _ h := plain_of_mem h
  first h := by
    obtain ⟨b, hb⟩ := List.head?_eq_some_iff.mp h
    exact (nil_not_mem_splitOn (a := []) hb).1 (by simp)
  last h := by
    obtain ⟨a, ha⟩ := List.getLast?_eq_some_iff.mp h
    exact (nil_not_mem_splitOn (b := []) ha).2 (by simp)
  single h := by
    obtain ⟨a, b, hab⟩ := h
    have hb : simplifyFrom false false cs = a ++ ' ' :: (' ' :: b) := by
      rw [← hab, List.append_assoc]
      rfl
    have hcut : (' ' :: b).splitOn ' ' = [] :: b.splitOn ' ' :=
      List.splitOn_append_cons_self [] b
    exact (nil_not_mem_splitOn hb).2 (hcut ▸ List.mem_cons_self ..)

theorem length_encodeChar_alphanum (h : c.isAlphanum) : (String.utf8EncodeChar c).length = 1 := by
  have hrange := (isAlphanum_iff c).mp h
  rw [Utf8.encodeChar_ascii (by omega)]
  rfl

/-- Each space takes the place of something that is left out. -/
theorem length_encode_simplifyFrom (gap started : Bool) (cs : List Char) :
    ((simplifyFrom gap started cs).flatMap String.utf8EncodeChar).length ≤
      (cs.flatMap String.utf8EncodeChar).length + (gap && started).toNat := by
  induction cs generalizing gap started with
  | nil => simp [simplifyFrom]
  | cons c cs ih =>
    by_cases hc : c.isAlphanum
    · have hrest := ih false true
      have hone := length_encodeChar_alphanum hc
      have hlower := length_encodeChar_alphanum ((isAlphanum_toLower c).trans hc)
      have hspace : ((if gap && started then [' '] else []).flatMap String.utf8EncodeChar).length =
          (gap && started).toNat := by cases gap && started <;> rfl
      rw [simplifyFrom_cons hc]
      simp only [List.flatMap_append, List.flatMap_cons, List.length_append, hspace, hone, hlower]
      simp only [Bool.false_and, Bool.toNat_false] at hrest
      omega
    · have hrest := ih true started
      have hsome : 0 < (String.utf8EncodeChar c).length := by
        rw [String.length_utf8EncodeChar]
        exact c.utf8Size_pos
      have hspace : (true && started).toNat ≤ 1 := Bool.toNat_le _
      rw [simplifyFrom_cons_gap hc, List.flatMap_cons, List.length_append]
      omega

theorem stem_simplify (text : String) : FileName.stem (simplify text) = simplify text := by
  have hdot : '.' ∉ (simplify text).toList := by
    intro h
    rw [toList_simplify] at h
    rcases plain_of_mem h with h | h | h <;> cases h
  rw [FileName.stem, Text.cutLast_eq_none.mpr hdot]

/-- A text is simplified to its words, in small letters and with one space between them: to nothing
if it has none, never to more bytes than it has, and to what is simple itself and stays as it is.
Two texts are simplified to the same just if they have the same words up to case. -/
theorem simplify_by_words (s t : String) :
    (simplify s).toList = [' '].intercalate ((words s.toList).map fold) ∧
    IsSimple (simplify s).toList ∧
    (simplify s = "" ↔ ¬ hasAlphanumeric s.toList) ∧
    (Utf8.encode (simplify s)).length ≤ (Utf8.encode s).length ∧
    simplify (simplify s) = simplify s ∧
    FileName.key (simplify s) = simplify s ∧
    (simplify s = simplify t ↔ (words s.toList).map fold = (words t.toList).map fold) := by
  have hagain : simplify (simplify s) = simplify s := by
    rw [← String.toList_inj, toList_simplify, toList_simplify, simplifyFrom_simplifyFrom]
  refine ⟨?_, ?_, ?_, ?_, hagain, ?_, ?_⟩
  · rw [toList_simplify, simplifyFrom_eq_words]
  · rw [toList_simplify]
    exact isSimple_simplifyFrom _
  · rw [← String.toList_eq_nil_iff, toList_simplify, simplifyFrom_eq_nil]
  · rw [simplify, Utf8.encode_ofList]
    exact length_encode_simplifyFrom false false s.toList
  · rw [FileName.key, stem_simplify, hagain]
  · rw [← String.toList_inj, toList_simplify, toList_simplify, simplifyFrom_inj]

example : words "[Group] The_Movie--(2009) é".toList =
    ["Group".toList, "The".toList, "Movie".toList, "2009".toList] := by decide

end TrackFinder
