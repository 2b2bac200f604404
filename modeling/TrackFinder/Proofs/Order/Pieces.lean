import TrackFinder.Proofs.Order.Numeral

/-! The order with numbers by value compares names piece by piece: it agrees with comparing the
numbers themselves, which it never computes. -/
namespace TrackFinder.Order

open Std

variable {a b rest run : List UInt8} {x d : UInt8} {p q : Piece} {ps qs rs : List Piece}
  {order order' : Piece → Piece → Ordering}

/-- `Cut text ps` says that `ps` are the pieces of `text`: runs of digits, as long as they can be,
and single other bytes. -/
inductive Cut : List UInt8 → List Piece → Prop where
  | nil : Cut [] []
  | byte (b : UInt8) (rest : List UInt8) (ps : List Piece) :
      ¬ isDigit b → Cut rest ps → Cut (b :: rest) (.byte b :: ps)
  | number (run rest : List UInt8) (ps : List Piece) :
      run ≠ [] → IsNumeral run → (∀ b ∈ rest.head?, ¬ isDigit b) → Cut rest ps →
        Cut (run ++ rest) (.number run :: ps)

namespace Piece

/-- What a piece of a name is like. -/
def IsProper : Piece → Prop
  | number run => run ≠ [] ∧ IsNumeral run
  | byte b => ¬ isDigit b

instance : DecidablePred IsProper
  | number run => inferInstanceAs (Decidable (run ≠ [] ∧ IsNumeral run))
  | byte b => inferInstanceAs (Decidable (¬ isDigit b))

/-- The first byte of a piece. -/
def lead : Piece → Nat
  | number run => (run.headD 48).toNat
  | byte b => b.toNat

/-- Numbers by value, of two that are equal the longer first; other pieces by their first bytes. -/
def byValue : Piece → Piece → Ordering
  | number m, number n => (Ord.compare (value m) (value n)).then (Ord.compare n.length m.length)
  | p, q => Ord.compare p.lead q.lead

instance : ReflCmp byValue where
  compare_self {p} := by
    cases p <;> simp [byValue]

theorem isProper_number : (number run).IsProper ↔ ∃ d rest, run = d :: rest ∧ isDigit d ∧
    IsNumeral rest := by
  cases run with
  | nil => simp [IsProper]
  | cons d rest => simp [IsProper]

/-- All numbers stand where the digit `0` does among the bytes, and so do their first digits. -/
theorem compare_number_byte (hd : isDigit d) (hb : ¬ isDigit x) (rest : List UInt8) :
    compare (number (d :: rest)) (byte x) = Ord.compare d.toNat x.toNat := by
  have hne : Ord.compare d.toNat x.toNat ≠ .eq := by
    intro he
    rw [UInt8.toNat_inj.mp (LawfulEqCmp.eq_of_compare he)] at hd
    exact hb hd
  have hrank : Ord.compare (rank (number (d :: rest))) (rank (byte x)) =
      Ord.compare d.toNat x.toNat := by
    have hstart := @compare_start d x (by simp [hb])
    rwa [start, start, if_pos hd, if_neg hb] at hstart
  rw [compare, hrank]
  cases hc : Ord.compare d.toNat x.toNat with
  | eq => exact absurd hc hne
  | lt => rfl
  | gt => rfl

theorem compare_eq_byValue (hp : p.IsProper) (hq : q.IsProper) : p.compare q = p.byValue q := by
  cases p with
  | number m =>
    cases q with
    | number n => exact digits_eq_compare_value hp.2 hq.2
    | byte x =>
      obtain ⟨d, rest, rfl, hd, -⟩ := isProper_number.mp hp
      exact compare_number_byte hd hq rest
  | byte x =>
    cases q with
    | number n =>
      obtain ⟨d, rest, rfl, hd, -⟩ := isProper_number.mp hq
      rw [@OrientedCmp.eq_swap _ compare, compare_number_byte hd hp rest]
      exact OrientedCmp.eq_swap.symm
    | byte y => exact Ordering.then_eq

theorem eq_of_byValue (hp : p.IsProper) (hq : q.IsProper) (h : p.byValue q = .eq) : p = q := by
  cases p with
  | number m =>
    cases q with
    | number n =>
      obtain ⟨hvalue, hlength⟩ := Ordering.then_eq_eq.mp h
      have hl : m.length = n.length := (Nat.compare_eq_eq.mp hlength).symm
      rw [eq_of_value_eq hp.2 hq.2 (Nat.compare_eq_eq.mp hvalue) hl]
    | byte x =>
      obtain ⟨d, rest, rfl, hd, -⟩ := isProper_number.mp hp
      have hdx : d = x := UInt8.toNat_inj.mp (Nat.compare_eq_eq.mp h)
      exact absurd (hdx ▸ hd) hq
  | byte x =>
    cases q with
    | number n =>
      obtain ⟨d, rest, rfl, hd, -⟩ := isProper_number.mp hq
      have hdx : x = d := UInt8.toNat_inj.mp (Nat.compare_eq_eq.mp h)
      exact absurd (hdx ▸ hd) hp
    | byte y => rw [UInt8.toNat_inj.mp (Nat.compare_eq_eq.mp h)]

end Piece

namespace Cut

theorem isProper (h : Cut a ps) : ∀ p ∈ ps, p.IsProper := by
  induction h with
  | nil => simp
  | byte b rest ps hb _ ih => exact List.forall_mem_cons.mpr ⟨hb, ih⟩
  | number run rest ps hne hrun _ _ ih => exact List.forall_mem_cons.mpr ⟨⟨hne, hrun⟩, ih⟩

/-- The pieces hold the whole text. -/
theorem text_eq (ha : Cut a ps) (hb : Cut b ps) : a = b := by
  induction ha generalizing b with
  | nil => cases hb; rfl
  | byte x rest ps _ _ ih => cases hb with | byte _ _ _ _ h => rw [ih h]
  | number run rest ps _ _ _ _ ih => cases hb with | number _ _ _ _ _ _ h => rw [ih h]

/-- Two texts are cut one by one unless a run of digits reaches from the first into the second. -/
theorem append (ha : Cut a ps) (hb : Cut b qs) (h : ∀ x ∈ a.getLast?, ¬ isDigit x) :
    Cut (a ++ b) (ps ++ qs) := by
  induction ha with
  | nil => exact hb
  | byte x rest ps hx hrest ih =>
    refine .byte x _ _ hx (ih fun y hy => h y ?_)
    rw [List.getLast?_cons, Option.mem_def.mp hy]
    rfl
  | number run rest ps hne hrun hstop hrest ih =>
    cases rest with
    | nil =>
      rw [List.append_nil] at h
      have hlast := List.getLast?_eq_some_getLast hne
      exact absurd (hrun _ (List.getLast_mem hne)) (h _ hlast)
    | cons y rest =>
      rw [List.append_assoc]
      refine .number run _ _ hne hrun hstop (ih fun x hx => h x ?_)
      rw [List.getLast?_append, Option.mem_def.mp hx]
      rfl

end Cut

theorem cut_pieces (text : List UInt8) : Cut text (pieces text) := by
  fun_induction pieces text with
  | case1 => exact .nil
  | case2 b rest hb ih =>
    have hrun : IsNumeral (b :: rest.takeWhile isDigit) :=
      isNumeral_cons.mpr ⟨hb, List.all_eq_true.mp List.all_takeWhile⟩
    have hstop : ∀ x ∈ (rest.dropWhile isDigit).head?, ¬ isDigit x := by
      intro x hx
      have hnot := List.head?_dropWhile_not isDigit rest
      rw [Option.mem_def.mp hx] at hnot
      simpa using hnot
    have h := Cut.number _ _ _ (List.cons_ne_nil _ _) hrun hstop ih
    rwa [List.cons_append, List.takeWhile_append_dropWhile] at h
  | case3 b rest hb ih => exact .byte b rest _ hb ih

/-- A text has no other pieces. -/
theorem Cut.eq_pieces (h : Cut a ps) : ps = pieces a := by
  induction h with
  | nil => rw [pieces]
  | byte b rest ps hb _ ih => rw [pieces_byte hb, ih]
  | number run rest ps hne hrun hstop _ ih =>
    obtain ⟨d, run, rfl⟩ := List.exists_cons_of_ne_nil hne
    obtain ⟨hd, hrun⟩ := isNumeral_cons.mp hrun
    have htake : rest.takeWhile isDigit = [] ∧ rest.dropWhile isDigit = rest := by
      cases rest with
      | nil => exact ⟨rfl, rfl⟩
      | cons x rest =>
        have hx := hstop x (Option.mem_some_self x)
        exact ⟨List.takeWhile_cons_of_neg hx, List.dropWhile_cons_of_neg hx⟩
    rw [List.cons_append, pieces_number hd, List.takeWhile_append_of_pos hrun,
      List.dropWhile_append_of_pos hrun, htake.1, htake.2, List.append_nil, ih]

/-- Rows of pieces are compared alike by orders that agree on their pieces. -/
theorem compareLex_congr (h : ∀ p ∈ ps, ∀ q ∈ qs, order p q = order' p q) :
    List.compareLex order ps qs = List.compareLex order' ps qs := by
  induction ps generalizing qs with
  | nil => cases qs <;> rfl
  | cons p ps ih =>
    cases qs with
    | nil => rfl
    | cons q qs =>
      obtain ⟨hp, hps⟩ := List.forall_mem_cons.mp h
      have hrest := ih fun p hp q hq => hps p hp q (List.mem_cons_of_mem _ hq)
      rw [List.compareLex_cons_cons, List.compareLex_cons_cons, hp q (List.mem_cons_self ..), hrest]

theorem eq_of_compareLex (h : ∀ p ∈ ps, ∀ q ∈ qs, order p q = .eq → p = q)
    (he : List.compareLex order ps qs = .eq) : ps = qs := by
  induction ps generalizing qs with
  | nil =>
    cases qs with
    | nil => rfl
    | cons q qs =>
      rw [List.compareLex_nil_cons] at he
      cases he
  | cons p ps ih =>
    cases qs with
    | nil =>
      rw [List.compareLex_cons_nil] at he
      cases he
    | cons q qs =>
      obtain ⟨hp, hps⟩ := List.forall_mem_cons.mp h
      rw [List.compareLex_cons_cons] at he
      obtain ⟨hfirst, hrest⟩ := Ordering.then_eq_eq.mp he
      have hrest := ih (fun p hp q hq => hps p hp q (List.mem_cons_of_mem _ hq)) hrest
      rw [hp q (List.mem_cons_self ..) hfirst, hrest]

theorem compareLex_append [ReflCmp order] (ps qs rs : List Piece) :
    List.compareLex order (ps ++ qs) (ps ++ rs) = List.compareLex order qs rs := by
  induction ps with
  | nil => rfl
  | cons p ps ih =>
    have hp : order p p = .eq := ReflCmp.compare_self
    rw [List.cons_append, List.cons_append, List.compareLex_cons_cons, hp, ih]
    rfl

theorem version_eq_compareLex {a b : String} (ha : Cut (Utf8.encode a) ps)
    (hb : Cut (Utf8.encode b) qs) : version a b = List.compareLex Piece.byValue ps qs := by
  have hbytes : versionBytes (Utf8.encode a) (Utf8.encode b) =
      List.compareLex Piece.byValue ps qs := by
    rw [versionBytes_eq_compareLex, ← ha.eq_pieces, ← hb.eq_pieces]
    exact compareLex_congr fun p hp q hq =>
      Piece.compare_eq_byValue (ha.isProper p hp) (hb.isProper q hq)
  rw [version, hbytes]
  cases hc : List.compareLex Piece.byValue ps qs with
  | lt => rfl
  | gt => rfl
  | eq =>
    have hps : ps = qs := eq_of_compareLex (fun p hp q hq =>
      Piece.eq_of_byValue (ha.isProper p hp) (hb.isProper q hq)) hc
    subst hps
    have hab : a = b := Utf8.encode_injective (ha.text_eq hb)
    rw [hab]
    exact ReflCmp.compare_self

/-- The order with numbers by value is the lexicographic order of the pieces of names, in which
numbers compare by value whatever their length. So behind a common beginning the smaller number
decides. -/
theorem version_by_value (a b : String) :
    (∃ ps qs, Cut (Utf8.encode a) ps ∧ Cut (Utf8.encode b) qs) ∧
    (∀ ps qs, Cut (Utf8.encode a) ps → Cut (Utf8.encode b) qs →
      version a b = List.compareLex Piece.byValue ps qs) ∧
    ∀ front m n s t : String, (∀ x ∈ (Utf8.encode front).getLast?, ¬ isDigit x) →
      (Piece.number (Utf8.encode m)).IsProper → (Piece.number (Utf8.encode n)).IsProper →
      value (Utf8.encode m) < value (Utf8.encode n) →
      (∀ x ∈ (Utf8.encode s).head?, ¬ isDigit x) → (∀ x ∈ (Utf8.encode t).head?, ¬ isDigit x) →
      version (front ++ m ++ s) (front ++ n ++ t) = .lt := by
  refine ⟨⟨_, _, cut_pieces _, cut_pieces _⟩, fun ps qs => version_eq_compareLex, ?_⟩
  intro front m n s t hfront hm hn hlt hs ht
  have hcut : ∀ m s : String, (Piece.number (Utf8.encode m)).IsProper →
      (∀ x ∈ (Utf8.encode s).head?, ¬ isDigit x) →
      Cut (Utf8.encode (front ++ m ++ s)) (pieces (Utf8.encode front) ++
        .number (Utf8.encode m) :: pieces (Utf8.encode s)) := by
    intro m s hm hs
    rw [String.append_assoc, Utf8.encode_append, Utf8.encode_append]
    exact (cut_pieces _).append (.number _ _ _ hm.1 hm.2 hs (cut_pieces _)) hfront
  have hvalue : Piece.byValue (.number (Utf8.encode m)) (.number (Utf8.encode n)) = .lt := by
    rw [Piece.byValue, Nat.compare_eq_lt.mpr hlt]
    rfl
  rw [version_eq_compareLex (hcut m s hm hs) (hcut n t hn ht), compareLex_append,
    List.compareLex_cons_cons, hvalue]
  rfl

/-- The ninth part comes before the tenth, which no order of bytes would have it. Of two numbers
beyond 64 bits the smaller one comes first although its run is the longer. -/
theorem version_by_value_parts :
    version "Part 9" "Part 10" = List.compareLex Piece.byValue (pieces (Utf8.encode "Part 9"))
      (pieces (Utf8.encode "Part 10")) ∧
    version "Part 9" "Part 10" = .lt ∧ plain "Part 9" "Part 10" = .gt ∧
    version ("Part " ++ "0099999999999999999999" ++ "z.mkv")
      ("Part " ++ "100000000000000000000" ++ ".mkv") = .lt := by
  obtain ⟨-, hpieces, hnumbers⟩ := version_by_value "Part 9" "Part 10"
  have hparts : version ("Part " ++ "9" ++ "") ("Part " ++ "10" ++ "") = .lt := by
    apply hnumbers
    all_goals decide +kernel
  have hnine : "Part " ++ "9" ++ "" = "Part 9" := by decide
  have hten : "Part " ++ "10" ++ "" = "Part 10" := by decide
  rw [hnine, hten] at hparts
  refine ⟨hpieces _ _ (cut_pieces _) (cut_pieces _), hparts, by decide +kernel, ?_⟩
  apply hnumbers
  all_goals decide +kernel

end TrackFinder.Order
