import TrackFinder.Log.Pattern.Atom

/-! Classes of characters in brackets, with classes and operators within them, and how deep such
parts of a pattern nest. -/

namespace TrackFinder.Pattern

/-- The depth of parts that stand side by side: one alone is as deep as it is, several count as one
part more around the deepest. -/
def depthTogether : List Nat → Nat
  | [] => 0
  | [depth] => depth
  | depths => depths.foldl max 0 + 1

/-- Patterns may not nest deeper. -/
def depthLimit : Nat := 250

/-- A class of which a part has been read: how deep that before the last operator nests, if there
is one, how deep each member after it does, and whether only the bracket, its negation and dashes
have been read, so that a dash is a member. -/
structure CharClass where
  operand : Option Nat
  members : List Nat
  atStart : Bool

namespace CharClass

/-- A class of which only the bracket has been read. -/
def opened : CharClass := ⟨none, [], true⟩

/-- How deep that nests which has been read. -/
def depth (read : CharClass) : Nat :=
  match read.operand with
  | none => depthTogether read.members
  | some operand => max operand (depthTogether read.members) + 1

def addMember (read : CharClass) (depth : Nat) : CharClass :=
  { read with members := depth :: read.members, atStart := false }

/-- Operators bind to the left. -/
def addOperator (read : CharClass) : CharClass := ⟨some read.depth, [], false⟩

end CharClass

/-- What follows an operator. -/
def operator? : List Char → Option (List Char)
  | '&' :: '&' :: rest => some rest
  | '-' :: '-' :: rest => some rest
  | '~' :: '~' :: rest => some rest
  | _ => none

/-- The names of classes of ASCII. -/
def asciiClasses : List (List Char) :=
  ["alnum", "alpha", "ascii", "blank", "cntrl", "digit", "graph", "lower", "print", "punct",
    "space", "upper", "word", "xdigit"].map String.toList

/-- Whether a named class is negated, and what follows it, given what follows its bracket. -/
def named? : List Char → Option (Bool × List Char)
  | ':' :: text =>
    let negated := text.head? = some '^'
    let text := if negated then text.drop 1 else text
    match text.dropWhile (· ≠ ':') with
    | ':' :: ']' :: rest =>
      if asciiClasses.contains (text.takeWhile (· ≠ ':')) then some (negated, rest) else none
    | _ => none
  | _ => none

/-- Whether a named class may stand in a class. In ASCII it may not be negated. -/
def namedAllowed (flags : Flags) (negated : Bool) : Bool :=
  if flags.ascii then !negated else !flags.anyCase

/-- The other end of a range, if one is written: a dash that neither ends a class nor doubles. -/
def rangeEnd? (flags : Flags) (text : List Char) : Option (List Char) :=
  match flags.skip text with
  | '-' :: rest =>
    if flags.glance? rest = some ']' || flags.glance? rest = some '-' then none
    else some (flags.skip rest)
  | _ => none

/-- What follows a member of a class: a character, a range or a set. -/
def member? (flags : Flags) (text : List Char) : Option (List Char) := do
  let (first, rest) ← atom? flags text
  if !first.allowedInClass flags then none
  else
    match rangeEnd? flags rest with
    | none => some rest
    | some rest =>
      let (last, rest) ← atom? flags rest
      match first, last with
      | .literal low _, .literal high _ =>
        if low ≤ high && last.allowedInClass flags then some rest else none
      | _, _ => none

/-- What follows the bracket and the negation of a class, if it may be negated: in ASCII nothing is,
since there would be bytes in it that are no character. -/
def negation? (flags : Flags) (text : List Char) : Option (List Char) :=
  match flags.skip text with
  | '^' :: rest => if flags.ascii then none else some rest
  | rest => some rest

/-- Reads on to the bracket that closes the outermost class, whose depth comes with what follows.
A bracket closes nothing if it comes first. -/
def classFrom? (flags : Flags) :
    Nat → CharClass → List CharClass → List Char → Option (Nat × List Char)
  | 0, _, _, _ => none
  | fuel + 1, read, outer, text =>
    match flags.skip text with
    | [] => none
    | c :: rest =>
      if read.atStart && (c = '-' || (c = ']' && read.members = [])) then
        if (Atom.literal c false).allowedInClass flags then
          classFrom? flags fuel { read.addMember 0 with atStart := c = '-' } outer rest
        else none
      else if c = ']' then
        match outer with
        | [] => some (read.depth + 1, rest)
        | around :: outer => classFrom? flags fuel (around.addMember (read.depth + 1)) outer rest
      else if c = '[' then
        match named? rest with
        | some (negated, rest) =>
          if namedAllowed flags negated then classFrom? flags fuel (read.addMember 0) outer rest
          else none
        | none => (negation? flags rest).bind (classFrom? flags fuel .opened (read :: outer))
      else
        match operator? (c :: rest) with
        | some rest => classFrom? flags fuel read.addOperator outer rest
        | none => (member? flags (c :: rest)).bind (classFrom? flags fuel (read.addMember 0) outer)

/-- The depth of a class and what follows it, given what follows its bracket. -/
def class? (flags : Flags) (text : List Char) : Option (Nat × List Char) :=
  (negation? flags text).bind (classFrom? flags (text.length + 1) .opened [])

end TrackFinder.Pattern
