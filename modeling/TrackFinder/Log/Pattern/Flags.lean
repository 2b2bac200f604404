import TrackFinder.Text

/-! Flags, which say how the part of a pattern after them is read. -/

namespace TrackFinder.Pattern

/-- Whether letters stand for both their cases, whether classes and borders of words are those of
ASCII, and whether blanks and comments are passed over. -/
structure Flags where
  anyCase : Bool
  ascii : Bool
  spaced : Bool
deriving DecidableEq

namespace Flags

/-- The flags at the start of a pattern. -/
def initial : Flags := ⟨false, false, false⟩

/-- The letters of flags. -/
def letters : List Char := ['i', 'm', 's', 'U', 'u', 'R', 'x']

/-- Whether each letter is known and named once, and one dash at most has letters after it. -/
def isChange (text : List Char) : Bool :=
  text.all (fun c => c = '-' || letters.contains c) && text.Nodup && text.getLast? ≠ some '-'

/-- The flags after a change, which takes back those that follow its dash. -/
def change (flags : Flags) (text : List Char) : Flags :=
  let given := text.takeWhile (· ≠ '-')
  let taken := text.dropWhile (· ≠ '-')
  let after (letter : Char) (before : Bool) :=
    (before || given.contains letter) && !taken.contains letter
  ⟨after 'i' flags.anyCase, !after 'u' (!flags.ascii), after 'x' flags.spaced⟩

/-- What follows the blanks and comments that a text starts with, or that it starts in the midst
of. A comment ends with its line. -/
def skipFrom (inComment : Bool) : List Char → List Char
  | [] => []
  | c :: rest =>
    if inComment then skipFrom (c ≠ '\n') rest
    else if Text.isBlank c || c = '#' then skipFrom (c = '#') rest
    else c :: rest

/-- The text from where it counts. -/
def skip (flags : Flags) (text : List Char) : List Char :=
  if flags.spaced then skipFrom false text else text

/-- The next character that counts, at a glance: it passes over blanks and the mark of a comment,
but takes the first character of the comment for what follows it. -/
def glance? (flags : Flags) (text : List Char) : Option Char :=
  if flags.spaced then
    match text.dropWhile Text.isBlank with
    | '#' :: rest => (rest.dropWhile Text.isBlank).head?
    | rest => rest.head?
  else text.head?

end Flags

end TrackFinder.Pattern
