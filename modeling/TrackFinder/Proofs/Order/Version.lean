import TrackFinder.Proofs.Order.Lawful

/-! The order with numbers by value compares names as rows of pieces: runs of digits and single
bytes. So it is a lawful comparison, and so are the orders of a listing. -/
namespace TrackFinder.Order

open Std

variable {a b : List UInt8} {x y : UInt8} {mode : SortMode} {collator : Collator}

instance : TransCmp digits := by
  have hlength := transCmp_on (compare : Nat → Nat → Ordering)
    fun a : List UInt8 => (a.dropWhile (· == 48)).length
  have hshort := transCmp_on bytes fun a : List UInt8 => a.dropWhile (· == 48)
  have hzeros := transCmp_on (fun m n : Nat => compare n m) (List.length (α := UInt8))
  exact inferInstanceAs (TransCmp (compareLex (compareLex _ _) fun a b : List UInt8 =>
    compare b.length a.length))

/-- A part of a name that is compared as a whole. -/
inductive Piece where
  | number (digits : List UInt8)
  | byte (b : UInt8)

namespace Piece

/-- Where a piece stands among bytes. All numbers stand where the digit `0` does. -/
def rank : Piece → Nat
  | number _ => 48
  | byte b => b.toNat

/-- The digits of a number; a single byte has none. -/
def run : Piece → List UInt8
  | number digits => digits
  | byte _ => []

def compare (p q : Piece) : Ordering :=
  (Ord.compare p.rank q.rank).then (digits p.run q.run)

instance : TransCmp compare := by
  have hrank := transCmp_on (Ord.compare : Nat → Nat → Ordering) rank
  have hrun := transCmp_on digits run
  exact inferInstanceAs (TransCmp (compareLex _ fun p q : Piece => digits p.run q.run))

end Piece

/-- The pieces of a name. -/
def pieces : List UInt8 → List Piece
  | [] => []
  | b :: rest =>
    if isDigit b then .number (b :: rest.takeWhile isDigit) :: pieces (rest.dropWhile isDigit)
    else .byte b :: pieces rest
termination_by a => a.length
decreasing_by
  · exact Nat.lt_succ_of_le (List.dropWhile_sublist _).length_le
  · exact Nat.lt_succ_self _

/-- Where the piece that a byte begins stands among bytes. -/
def start (b : UInt8) : Nat := if isDigit b then 48 else b.toNat

theorem isDigit_iff : isDigit x ↔ 48 ≤ x.toNat ∧ x.toNat ≤ 57 := by
  simp [isDigit, UInt8.le_iff_toNat_le]

/-- Unless two numbers meet, the first bytes decide as the pieces do. -/
theorem compare_start (h : ¬ (isDigit x && isDigit y)) :
    compare (start x) (start y) = compare x.toNat y.toNat := by
  simp only [Bool.and_eq_true, isDigit_iff] at h
  simp only [start, isDigit_iff, Nat.compare_eq_ite_lt]
  -- A digit lies on the same side of any other byte as the digit `0` does.
  split <;> split <;> grind

theorem pieces_number (h : isDigit x) (rest : List UInt8) :
    pieces (x :: rest) =
      .number (x :: rest.takeWhile isDigit) :: pieces (rest.dropWhile isDigit) := by
  rw [pieces, if_pos h]

theorem pieces_byte (h : ¬ isDigit x) (rest : List UInt8) :
    pieces (x :: rest) = .byte x :: pieces rest := by
  rw [pieces, if_neg h]

theorem pieces_cons (x : UInt8) (rest : List UInt8) :
    ∃ p ps, pieces (x :: rest) = p :: ps ∧ p.rank = start x := by
  unfold start
  by_cases h : isDigit x
  · exact ⟨_, _, pieces_number h rest, by rw [if_pos h]; rfl⟩
  · exact ⟨_, _, pieces_byte h rest, by rw [if_neg h]; rfl⟩

theorem versionBytes_eq_compareLex (a b : List UInt8) :
    versionBytes a b = List.compareLex Piece.compare (pieces a) (pieces b) := by
  fun_induction versionBytes a b with
  | case1 => rw [pieces, List.compareLex_nil_nil]
  | case2 y ys =>
    obtain ⟨q, qs, hq, -⟩ := pieces_cons y ys
    rw [hq, pieces, List.compareLex_nil_cons]
  | case3 x xs =>
    obtain ⟨p, ps, hp, -⟩ := pieces_cons x xs
    rw [hp, pieces, List.compareLex_cons_nil]
  | case4 x xs y ys h ih =>
    obtain ⟨hx, hy⟩ := (Bool.and_eq_true _ _).mp h
    rw [pieces_number hx, pieces_number hy, List.compareLex_cons_cons, ← ih]
    rfl
  | case5 x xs y ys h ih =>
    by_cases hxy : x = y
    · subst hxy
      have hx : ¬ isDigit x := fun hx => h (by rw [hx]; rfl)
      have hbyte : compare x.toNat x.toNat = .eq := ReflCmp.compare_self
      have hpiece : Piece.compare (.byte x) (.byte x) = .eq := ReflCmp.compare_self
      rw [pieces_byte hx, pieces_byte hx, List.compareLex_cons_cons, ← ih, hbyte, hpiece]
    · have hne : compare x.toNat y.toNat ≠ .eq := by
        intro heq
        exact hxy (UInt8.toNat_inj.mp (LawfulEqCmp.eq_of_compare heq))
      obtain ⟨p, ps, hps, hp⟩ := pieces_cons x xs
      obtain ⟨q, qs, hqs, hq⟩ := pieces_cons y ys
      rw [hps, hqs, List.compareLex_cons_cons, Piece.compare, hp, hq, compare_start h]
      cases hc : compare x.toNat y.toNat with
      | eq => exact absurd hc hne
      | lt => rfl
      | gt => rfl

instance : TransCmp versionBytes := by
  have hpieces : versionBytes = fun a b =>
      List.compareLex Piece.compare (pieces a) (pieces b) :=
    funext fun a => funext fun b => versionBytes_eq_compareLex a b
  rw [hpieces]
  exact transCmp_on _ pieces

instance : TransCmp version := by
  have hbytes := transCmp_on versionBytes Utf8.encode
  exact inferInstanceAs (TransCmp (compareLex _ plain))

instance : LawfulEqCmp version where
  compare_self := ReflCmp.compare_self
  eq_of_compare h := LawfulEqCmp.eq_of_compare (Ordering.then_eq_eq.mp h).2

/-- The order with numbers by value is linear on all texts: turned around by swapping, undecided
only on a text and itself, and transitive. -/
theorem version_linear (a b c : String) :
    version a b = (version b a).swap ∧ (version a b = .eq ↔ a = b) ∧
      ((version a b).isLE → (version b c).isLE → (version a c).isLE) :=
  ⟨OrientedCmp.eq_swap, LawfulEqCmp.compare_eq_iff_eq, TransCmp.isLE_trans⟩

/-- Leading zeros, a number of more digits and a letter after a number, in one chain. -/
theorem version_linear_file :
    (version "file01" "file1").isLE ∧ (version "file1" "file10a").isLE ∧
      (version "file01" "file10a").isLE := by
  have hzero : (version "file01" "file1").isLE := by decide +kernel
  have hten : (version "file1" "file10a").isLE := by decide +kernel
  exact ⟨hzero, hten, (version_linear "file01" "file1" "file10a").2.2 hzero hten⟩

/-- The order of names in a mode. -/
def names (mode : SortMode) (collator : Collator) : Collator :=
  match mode with
  | .none => fun _ _ => .eq
  | .version => version
  | .collate => collator

theorem entries_eq (mode : SortMode) (collator : Collator) (e f : FileName × Bool) :
    entries mode collator e f =
      (compare f.2.toNat e.2.toNat).then (names mode collator e.1 f.1) := by
  cases mode <;> rfl

instance [TransCmp collator] : TransCmp (names mode collator) := by
  cases mode with
  | none => exact transCmp_on (compare : Nat → Nat → Ordering) fun _ => 0
  | version => exact inferInstanceAs (TransCmp version)
  | collate => exact inferInstanceAs (TransCmp collator)

instance [TransCmp collator] : TransCmp (entries mode collator) := by
  have hkind := transCmp_on (fun m n : Nat => compare n m) fun e : FileName × Bool => e.2.toNat
  have hname := transCmp_on (names mode collator) fun e : FileName × Bool => e.1
  have heq : entries mode collator = compareLex (fun e f => compare f.2.toNat e.2.toNat)
      fun e f => names mode collator e.1 f.1 :=
    funext fun e => funext fun f => entries_eq mode collator e f
  rw [heq]
  infer_instance

theorem entries_isLE {e f : FileName × Bool} (h : (entries mode collator e f).isLE) :
    (f.2 → e.2) ∧ (e.2 = f.2 → (names mode collator e.1 f.1).isLE) := by
  have hlater : compare 1 0 = Ordering.gt := rfl
  rw [entries_eq] at h
  cases he : e.2 <;> cases hf : f.2 <;> simp_all

theorem entries_tie {e f : FileName × Bool} :
    entries mode collator e f = .eq ↔ e.2 = f.2 ∧ names mode collator e.1 f.1 = .eq := by
  rw [entries_eq, Ordering.then_eq_eq]
  cases he : e.2 <;> cases hf : f.2 <;> simp

/-- Where the order of names is linear, only entries of one name and one kind tie. -/
theorem entries_eq_iff [TransCmp collator] [LawfulEqCmp collator] (hsort : mode ≠ .none)
    {e f : FileName × Bool} : entries mode collator e f = .eq ↔ e = f := by
  constructor
  · intro h
    obtain ⟨hkind, hnames⟩ := entries_tie.mp h
    have hname : e.1 = f.1 := by
      cases mode with
      | none => exact absurd rfl hsort
      | version => exact LawfulEqCmp.eq_of_compare (show version e.1 f.1 = .eq from hnames)
      | collate => exact LawfulEqCmp.eq_of_compare (show collator e.1 f.1 = .eq from hnames)
    exact Prod.ext hname hkind
  · rintro rfl
    exact ReflCmp.compare_self

end TrackFinder.Order
