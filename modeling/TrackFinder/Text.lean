/-! Texts as lists of characters: sets of characters, the case of letters, blanks, cutting, and
numbers in decimal. -/

namespace TrackFinder

namespace Ascii

/-- The text with its ASCII capitals made small. -/
def fold (text : List Char) : List Char := text.map Char.toLower

/-- Equality up to the case of ASCII letters; other letters keep theirs. -/
def same (a b : List Char) : Bool := fold a == fold b

/-- Whether an ASCII letter or digit occurs. -/
def hasAlphanumeric (text : List Char) : Bool := text.any Char.isAlphanum

end Ascii

namespace Text

/-- Closed ranges of code points. -/
abbrev Ranges := List (Nat × Nat)

namespace Ranges

/-- Whether a character lies in one of the ranges. -/
def holds (ranges : Ranges) (c : Char) : Bool :=
  ranges.any fun (first, last) => first ≤ c.toNat && c.toNat ≤ last

/-- Whether the ranges ascend with gaps between them. -/
def ascending : Ranges → Bool
  | [] => true
  | [(first, last)] => first ≤ last
  | (first, last) :: (next, last') :: rest =>
    first ≤ last && last + 1 < next && ascending ((next, last') :: rest)

end Ranges

section Cut

variable {α : Type} [DecidableEq α]

/-- What stands before and what stands after the last `separator`. -/
def cutLast (separator : α) : List α → Option (List α × List α)
  | [] => none
  | c :: rest =>
    match cutLast separator rest with
    | some (before, after) => some (c :: before, after)
    | none => if c = separator then some ([], rest) else none

/-- What follows `lead`, if the list starts with it. -/
def stripLead : List α → List α → Option (List α)
  | [], text => some text
  | _ :: _, [] => none
  | l :: lead, c :: text => if l = c then stripLead lead text else none

/-- What follows the first occurrence of `part`. -/
def afterFirst (part : List α) : List α → Option (List α)
  | [] => if part = [] then some [] else none
  | c :: text =>
    match stripLead part (c :: text) with
    | some rest => some rest
    | none => afterFirst part text

end Cut

/-- The Unicode property `White_Space`. -/
def isBlank (c : Char) : Bool :=
  let n := c.toNat
  (9 ≤ n && n ≤ 13) || n == 0x20 || n == 0x85 || n == 0xA0 || n == 0x1680 ||
    (0x2000 ≤ n && n ≤ 0x200A) || n == 0x2028 || n == 0x2029 || n == 0x202F || n == 0x205F ||
    n == 0x3000

/-- The text without the blanks around it. -/
def trim (text : List Char) : List Char :=
  ((text.dropWhile isBlank).reverse.dropWhile isBlank).reverse

/-- The pieces between commas, trimmed; empty pieces are left out. -/
def commaItems (text : String) : List String :=
  ((text.toList.splitOn ',').map trim).filterMap fun piece =>
    if piece = [] then none else some (String.ofList piece)

/-- The number that digits write, after digits that write `n`. -/
def digitsFrom (n : Nat) (digits : List Char) : Nat :=
  digits.foldl (fun n c => 10 * n + (c.toNat - 48)) n

/-- The number that a non-empty run of digits writes. -/
def natural? (text : List Char) : Option Nat :=
  if text = [] || text.any (fun c => !c.isDigit) then none else some (digitsFrom 0 text)

/-- The number that digits write, with a plus before them or nothing. -/
def unsigned? : List Char → Option Nat
  | '+' :: digits => natural? digits
  | digits => natural? digits

/-- The number that digits write, with a sign before them or none. -/
def integer? : List Char → Option Int
  | '+' :: digits => (natural? digits).map fun n : Nat => (n : Int)
  | '-' :: digits => (natural? digits).map fun n : Nat => -(n : Int)
  | digits => (natural? digits).map fun n : Nat => (n : Int)

/-- As `integer?`, for numbers of 64 bits. -/
def int64? (text : List Char) : Option Int :=
  (integer? text).filter fun n => -9223372036854775808 ≤ n && n ≤ 9223372036854775807

end Text

end TrackFinder
