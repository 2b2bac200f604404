import TrackFinder.Text.Utf8

/-! Orders on texts, by their bytes. -/

namespace TrackFinder

/-- An order on texts, as a language or a host may wish it. -/
abbrev Collator := String → String → Ordering

namespace Order

def bytes : List UInt8 → List UInt8 → Ordering
  | [], [] => .eq
  | [], _ :: _ => .lt
  | _ :: _, [] => .gt
  | a :: as, b :: bs => (compare a.toNat b.toNat).then (bytes as bs)

/-- An ASCII capital made small. -/
def smallByte (b : UInt8) : UInt8 := if 65 ≤ b && b ≤ 90 then b + 32 else b

/-- Byte order. -/
def plain : Collator := fun a b => bytes (Utf8.encode a) (Utf8.encode b)

/-- Byte order without regard to the case of ASCII letters; where that does not decide, byte
order. -/
def ascii : Collator := fun a b =>
  (bytes ((Utf8.encode a).map smallByte) ((Utf8.encode b).map smallByte)).then (plain a b)

/-- The list in order. Equal elements stay as they stood. -/
def sort {α : Type} (order : α → α → Ordering) (xs : List α) : List α :=
  xs.mergeSort fun a b => (order a b).isLE

end Order

end TrackFinder
