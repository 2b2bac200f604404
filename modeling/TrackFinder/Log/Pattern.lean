import TrackFinder.Log.Pattern.CharClass
import TrackFinder.Text.Alphanumeric

/-! Regular expressions that a filter may hold. Only their form counts. Letters are told apart by
case, and classes that need tables of letters are not known, unless a pattern confines itself to
ASCII. Counted repetitions have no place, since a filter ends a pattern at a closing brace. -/

namespace TrackFinder.Pattern

/-- How a group starts, or a change of flags that goes on to the end of the group around it. -/
inductive Opening where
  | group (flags : Flags) (name : Option (List Char)) (rest : List Char)
  | setting (flags : Flags) (rest : List Char)

/-- Whether a text may name a group. -/
def isGroupName : List Char → Bool
  | [] => false
  | c :: rest =>
    (c = '_' || Text.isAlphabetic c) &&
      rest.all fun c => c = '_' || c = '.' || c = '[' || c = ']' || Text.isAlphanumeric c

/-- A named group, given what follows the angle bracket. -/
def namedGroup? (flags : Flags) (text : List Char) : Option Opening :=
  let name := text.takeWhile (· ≠ '>')
  match text.dropWhile (· ≠ '>') with
  | _ :: rest => if isGroupName name then some (.group flags (some name) rest) else none
  | [] => none

/-- How a group starts, given what follows its bracket. -/
def opening? (flags : Flags) : List Char → Option Opening
  | '?' :: 'P' :: '<' :: rest => namedGroup? flags rest
  | '?' :: '<' :: rest => namedGroup? flags rest
  | '?' :: rest =>
    let letters := rest.takeWhile fun c => c ≠ ':' && c ≠ ')'
    if !Flags.isChange letters then none
    else
      match rest.dropWhile fun c => c ≠ ':' && c ≠ ')' with
      | ':' :: rest => some (.group (flags.change letters) none rest)
      | _ :: rest => if letters = [] then none else some (.setting (flags.change letters) rest)
      | [] => none
  | rest => some (.group flags none rest)

/-- A group of which a part has been read, or the whole pattern: the flags in force, how deep the
alternatives before the present one nest, and how deep each part of that does, the last first. A
change of flags is a part without depth. -/
structure Group where
  flags : Flags
  alternatives : List Nat
  parts : List (Option Nat)

namespace Group

def opened (flags : Flags) : Group := ⟨flags, [], []⟩

/-- How deep the present alternative nests. -/
def partsDepth (read : Group) : Nat := depthTogether (read.parts.map (·.getD 0))

/-- How deep that nests which has been read. -/
def depth (read : Group) : Nat := depthTogether (read.partsDepth :: read.alternatives)

def addPart (read : Group) (depth : Nat) : Group :=
  { read with parts := some depth :: read.parts }

def addSetting (read : Group) (flags : Flags) : Group :=
  { read with flags := flags, parts := none :: read.parts }

def addAlternative (read : Group) : Group :=
  { read with alternatives := read.partsDepth :: read.alternatives, parts := [] }

/-- A repetition takes the part before it, if there is one. -/
def addRepetition? (read : Group) : Option Group :=
  match read.parts with
  | some depth :: parts => some { read with parts := some (depth + 1) :: parts }
  | _ => none

end Group

/-- The depth of a pattern of which groups are open, the innermost first, and have taken names.
Malformed patterns have none. -/
def depthFrom? : Nat → Group → List Group → List (List Char) → List Char → Option Nat
  | 0, _, _, _, _ => none
  | fuel + 1, read, outer, names, text =>
    match read.flags.skip text with
    | [] => if outer.isEmpty then some read.depth else none
    | c :: rest =>
      if c = '(' then
        match opening? read.flags (read.flags.skip rest) with
        | none => none
        | some (.setting flags rest) => depthFrom? fuel (read.addSetting flags) outer names rest
        | some (.group flags name rest) =>
          if name.any names.contains then none
          else depthFrom? fuel (.opened flags) (read :: outer) (name.toList ++ names) rest
      else if c = ')' then
        match outer with
        | [] => none
        | around :: outer => depthFrom? fuel (around.addPart (read.depth + 1)) outer names rest
      else if c = '|' then depthFrom? fuel read.addAlternative outer names rest
      else if c = '[' then
        (class? read.flags rest).bind fun (depth, rest) =>
          depthFrom? fuel (read.addPart depth) outer names rest
      else if c = '?' || c = '*' || c = '+' then
        let rest := if rest.head? = some '?' then rest.drop 1 else rest
        read.addRepetition?.bind fun read => depthFrom? fuel read outer names rest
      else if c = '\x7b' || (c = '.' && read.flags.ascii) then none
      else if c = '.' || c = '^' || c = '$' then
        depthFrom? fuel (read.addPart 0) outer names rest
      else
        (atom? read.flags (c :: rest)).bind fun (atom, rest) =>
          if atom.allowed read.flags then depthFrom? fuel (read.addPart 0) outer names rest
          else none

/-- The depth of a pattern, if it is well formed. -/
def depth? (text : List Char) : Option Nat :=
  depthFrom? (text.length + 1) (.opened .initial) [] [] text

/-- Whether a text is a pattern. -/
def wellFormed (text : List Char) : Bool := (depth? text).any (· ≤ depthLimit)

end TrackFinder.Pattern
