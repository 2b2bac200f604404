import TrackFinder.Order.Text

/-! The order in which `file2` comes before `file10`. -/

namespace TrackFinder.Order

def isDigit (b : UInt8) : Bool := 48 ≤ b && b ≤ 57

/-- Digit runs by the number they write; of two that write the same, the longer first. -/
def digits (a b : List UInt8) : Ordering :=
  let short := a.dropWhile (· == 48)
  let short' := b.dropWhile (· == 48)
  ((compare short.length short'.length).then (bytes short short')).then
    (compare b.length a.length)

/-- Walks both texts at once. Where both show a digit the whole runs are compared, else one byte
with one byte. -/
def versionBytes (a b : List UInt8) : Ordering :=
  match a, b with
  | [], [] => .eq
  | [], _ :: _ => .lt
  | _ :: _, [] => .gt
  | x :: xs, y :: ys =>
    if isDigit x && isDigit y then
      (digits (x :: xs.takeWhile isDigit) (y :: ys.takeWhile isDigit)).then
        (versionBytes (xs.dropWhile isDigit) (ys.dropWhile isDigit))
    else (compare x.toNat y.toNat).then (versionBytes xs ys)
termination_by a.length
decreasing_by
  · exact Nat.lt_succ_of_le (List.dropWhile_sublist _).length_le
  · exact Nat.lt_succ_self _

/-- Digit runs by value, other bytes one by one. -/
def version : Collator := fun a b =>
  (versionBytes (Utf8.encode a) (Utf8.encode b)).then (plain a b)

end TrackFinder.Order
