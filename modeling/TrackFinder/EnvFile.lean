import TrackFinder.Text
import TrackFinder.Text.Alphanumeric

/-! Files of variables, one `KEY=value` a line. A line may carry a comment, quotes, escapes and
references to other variables. -/

namespace TrackFinder.EnvFile

/-- Where the end of a line stands: quotes and escapes may run on to the next. -/
inductive LineEnd where
  | plain
  | gap
  | escape
  | strong
  | strongEscape
  | weak
  | weakEscape
  | comment
deriving DecidableEq

/-- The state after one more character. A comment starts after a gap. -/
def LineEnd.after : LineEnd → Char → LineEnd
  | comment, _ => comment
  | escape, _ => plain
  | weakEscape, _ => weak
  | strongEscape, _ => strong
  | weak, c => if c = '\\' then weakEscape else if c = '"' then plain else weak
  | strong, c => if c = '\\' then strongEscape else if c = '\x27' then plain else strong
  | state, c =>
    if state = gap && c = '#' then comment
    else if state = plain && Text.isBlank c && c ≠ '\n' && c ≠ '\r' then gap
    else if c = '\\' then escape
    else if c = '"' then weak
    else if c = '\x27' then strong
    else plain

/-- Reads a line up to a comment; gives what was read and the state at its end. -/
def readLine (state : LineEnd) : List Char → List Char × LineEnd
  | [] => ([], state)
  | c :: rest =>
    match state.after c with
    | .comment => ([], .comment)
    | next =>
      let (read, last) := readLine next rest
      (c :: read, last)

/-- Gives a line feed to each piece but the last, which is no line if it is empty. -/
def closeLines : List (List Char) → List (List Char)
  | [] => []
  | [last] => if last = [] then [] else [last]
  | piece :: rest => (piece ++ ['\n']) :: closeLines rest

/-- The lines of a text, each with its line feed. -/
def physicalLines (text : List Char) : List (List Char) := closeLines (text.splitOn '\n')

/-- A line without its line feed. -/
def dropLineFeed (line : List Char) : List Char :=
  match line.reverse with
  | '\n' :: '\r' :: rest => rest.reverse
  | '\n' :: rest => rest.reverse
  | _ => line

/-- Lines joined where a quote or an escape runs on; `none` for one that never ends. -/
def logicalLines (read : List Char) (state : LineEnd) : List (List Char) → List (Option (List Char))
  | [] => if state = .plain then [] else [none]
  | line :: rest =>
    if ((read ++ line).dropWhile Text.isBlank).head? = some '#' then
      some [] :: logicalLines [] .plain rest
    else
      let (more, state) := readLine state line
      let read := read ++ more
      match state with
      | .plain => some (dropLineFeed read) :: logicalLines [] .plain rest
      | .comment => some read :: logicalLines [] .plain rest
      | state => logicalLines read state rest

/-- A value being read. `reference` is the name of a variable referred to, `braced` whether it
stands in braces. -/
structure Reading where
  output : List Char
  quote : Option Char
  escaped : Bool
  ended : Bool
  reference : Option (List Char)
  braced : Bool

def Reading.start : Reading := ⟨[], none, false, false, none, false⟩

/-- Puts the value of the variable referred to in the place of its name. -/
def Reading.resolve (valueOf? : String → Option String) (r : Reading) : Reading :=
  match r.reference with
  | some name =>
    { r with
      output := r.output ++ ((valueOf? (String.ofList name)).getD "").toList
      reference := none
      braced := false }
  | none => r

/-- One more character of a value. Strong quotes keep all; outside of them a dollar sign refers to
a variable and a backslash escapes. -/
def Reading.step (valueOf? : String → Option String) (r : Reading) (c : Char) : Option Reading :=
  let put (r : Reading) (c : Char) : Reading := { r with output := r.output ++ [c] }
  if r.ended then if c = ' ' || c = '\t' then some r else none
  else if r.escaped then
    if c = '\\' || c = '\x27' || c = '"' || c = '$' || c = ' ' then
      some { put r c with escaped := false }
    else if c = 'n' then some { put r '\n' with escaped := false }
    else none
  else if r.quote = some '\x27' then
    some (if c = '\x27' then { r with quote := none } else put r c)
  else
    match r.reference with
    | some name =>
      if r.braced then
        some (if c = '\x7d' then r.resolve valueOf? else { r with reference := some (name ++ [c]) })
      else if Text.isAlphanumeric c then some { r with reference := some (name ++ [c]) }
      else if c = '\x7b' && name = [] then some { r with braced := true }
      else
        let r := r.resolve valueOf?
        some (if c = '$' then { r with reference := some [] } else put r c)
    | none =>
      if c = '$' then some { r with reference := some [] }
      else if c = '\\' then some { r with escaped := true }
      else if r.quote = some '"' then
        some (if c = '"' then { r with quote := none } else put r c)
      else if c = '\x27' || c = '"' then some { r with quote := some c }
      else if c = ' ' || c = '\t' then some { r with ended := true }
      else some (put r c)

/-- The value that a text writes. After a blank only a comment may follow. -/
def readValue (valueOf? : String → Option String) (r : Reading) : List Char → Option (List Char)
  | [] => if r.quote.isSome || r.braced then none else some (r.resolve valueOf?).output
  | c :: rest =>
    if r.ended && c = '#' then
      if r.quote.isSome || r.braced then none else some (r.resolve valueOf?).output
    else
      match r.step valueOf? c with
      | some r => readValue valueOf? r rest
      | none => none

def isKeyStart (c : Char) : Bool := c.isAlpha || c == '_'

def isKeyChar (c : Char) : Bool := c.isAlphanum || c == '_' || c == '.'

/-- A key and what follows it and the blanks after it. -/
def readKey (text : List Char) : Option (List Char × List Char) :=
  if text.head?.any isKeyStart then
    some (text.takeWhile isKeyChar, (text.dropWhile isKeyChar).dropWhile Text.isBlank)
  else none

/-- The key of a line and what follows its equals sign. The word `export` may stand before. -/
def readAssignment (text : List Char) : Option (List Char × List Char) :=
  match readKey text with
  | some (key, '=' :: rest) => some (key, rest)
  | some (key, rest) =>
    if key = "export".toList then
      match readKey rest with
      | some (key, '=' :: rest) => some (key, rest)
      | _ => none
    else none
  | none => none

/-- What a line sets: nothing if it is blank or a comment; `none` if it is malformed. Blanks around
it do not count. -/
def readSetting (valueOf? : String → Option String) (line : List Char) :
    Option (Option (String × String)) :=
  let text := Text.trim line
  if text = [] || text.head? = some '#' then some none
  else
    match readAssignment text with
    | none => none
    | some (key, rest) =>
      let rest := rest.dropWhile Text.isBlank
      if rest = [] || rest.head? = some '#' then some (some (String.ofList key, ""))
      else
        (readValue valueOf? .start rest).map fun value =>
          some (String.ofList key, String.ofList value)

/-- The value that settings give a variable. It follows the name and an equals sign, wherever in
`KEY=value` that is. -/
def find? (settings : List (String × String)) (name : String) : Option String :=
  if name = "" then none
  else
    settings.findSome? fun (key, value) =>
      (Text.stripLead (name ++ "=").toList (key ++ "=" ++ value).toList).map String.ofList

/-- The variable as it is outside, else as it was set before. -/
def lookup (outside : String → Option String) (settings : List (String × String)) (name : String) :
    Option String :=
  (outside name).or (find? settings name)

/-- The settings of the lines up to the first malformed one. Variables that have a value keep it. -/
def settingsFrom (outside : String → Option String) (settings : List (String × String)) :
    List (Option (List Char)) → List (String × String)
  | [] => settings
  | none :: _ => settings
  | some line :: rest =>
    match readSetting (lookup outside settings) line with
    | none => settings
    | some none => settingsFrom outside settings rest
    | some (some (key, value)) =>
      if (lookup outside settings key).isSome then settingsFrom outside settings rest
      else settingsFrom outside (settings ++ [(key, value)]) rest

/-- The names in a text that it may refer to as variables: what stands in braces, runs of letters
and digits, and runs of what keys may hold. -/
def mentioned (text : String) : List String :=
  let pieces (ends : Char → Bool) := text.toList.splitOnP ends
  (pieces (fun c => c = '\x7b' || c = '\x7d') ++ pieces (fun c => !Text.isAlphanumeric c) ++
    pieces fun c => !isKeyChar c).map String.ofList

/-- The variables outside together with those that a file sets. Those outside win. -/
def extend (outside : String → Option String) (file : Option String) (name : String) :
    Option String :=
  match file with
  | none => outside name
  | some text =>
    let text := if text.toList.head? = some '\uFEFF' then text.toList.drop 1 else text.toList
    lookup outside (settingsFrom outside [] (logicalLines [] .plain (physicalLines text))) name

end TrackFinder.EnvFile
