import TrackFinder.Log.Pattern.Flags

/-! Characters and escapes, the smallest parts of a pattern. -/

namespace TrackFinder.Pattern

/-- What a character or an escape stands for: a character, which may be written as a byte, digits,
blanks or word characters of ASCII, or a place between characters. -/
inductive Atom where
  | literal (c : Char) (byte : Bool)
  | asciiSet
  | place

/-- Characters that stand for themselves after a backslash. -/
def isPunctuation (c : Char) : Bool := c.toNat < 128 && !c.isAlphanum && c ≠ '<' && c ≠ '>'

/-- The characters that have a letter of their own after a backslash. -/
def controls : List (Char × Char) :=
  [('a', '\x07'), ('f', '\x0c'), ('t', '\t'), ('n', '\n'), ('r', '\r'), ('v', '\x0b')]

def hexValue? (c : Char) : Option Nat :=
  if c.isDigit then some (c.toNat - 48)
  else if 'a' ≤ c.toLower && c.toLower ≤ 'f' then some (c.toLower.toNat - 87)
  else none

/-- Reads hexadecimal digits after those that write `code`. -/
def hexCode? (flags : Flags) : Nat → Nat → List Char → Option (Nat × List Char)
  | 0, code, text => some (code, text)
  | width + 1, code, text =>
    match flags.skip text with
    | [] => none
    | c :: rest => (hexValue? c).bind fun digit => hexCode? flags width (16 * code + digit) rest

/-- The character written by a fixed number of hexadecimal digits, and what follows. -/
def hexChar? (flags : Flags) (width : Nat) (text : List Char) : Option (Char × List Char) :=
  (hexCode? flags width 0 text).bind fun (code, rest) =>
    if code.isValidChar then some (Char.ofNat code, rest) else none

/-- What a backslash makes of the text after it. Sets and the borders of words are known of ASCII
alone. -/
def escape? (flags : Flags) : List Char → Option (Atom × List Char)
  | [] => none
  | c :: rest =>
    if c = 'x' then (hexChar? flags 2 rest).map fun (c, rest) => (.literal c true, rest)
    else if c = 'u' then (hexChar? flags 4 rest).map fun (c, rest) => (.literal c false, rest)
    else if c = 'U' then (hexChar? flags 8 rest).map fun (c, rest) => (.literal c false, rest)
    else if c = 'd' || c = 's' || c = 'w' then
      if flags.ascii then some (.asciiSet, rest) else none
    else if c = 'b' || c = 'B' || c = '<' || c = '>' then
      if flags.ascii then some (.place, rest) else none
    else if c = 'A' || c = 'z' then some (.place, rest)
    else if isPunctuation c then some (.literal c false, rest)
    else (controls.lookup c).map fun c => (.literal c false, rest)

/-- A character or an escape. -/
def atom? (flags : Flags) : List Char → Option (Atom × List Char)
  | [] => none
  | '\\' :: rest => escape? flags rest
  | c :: rest => some (.literal c false, rest)

/-- Whether an atom may stand in a pattern. There is no telling which characters are both cases of
one letter, except in ASCII, and a byte that is no character is refused. -/
def Atom.allowed (flags : Flags) : Atom → Bool
  | .literal c byte => if flags.ascii then !byte || c.toNat < 128 else !flags.anyCase
  | _ => true

/-- Whether an atom may stand in a class, which is of ASCII throughout or not at all. -/
def Atom.allowedInClass (flags : Flags) : Atom → Bool
  | .literal c _ => if flags.ascii then c.toNat < 128 else !flags.anyCase
  | .asciiSet => true
  | .place => false

end TrackFinder.Pattern
