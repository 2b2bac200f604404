import TrackFinder.Text
import TrackFinder.Text.Utf8

/-! File paths as raw bytes, since a file name need not be text. -/

namespace TrackFinder

structure Path where
  bytes : List UInt8
deriving DecidableEq

/-- One step of a path. `here` is a leading `.`; later ones are no steps. -/
inductive Component where
  | root
  | here
  | up
  | name (bytes : List UInt8)
deriving DecidableEq

namespace Path

def slash : UInt8 := 47

def dot : UInt8 := 46

def ofText (text : String) : Path := ⟨Utf8.encode text⟩

/-- The path as text, if it is UTF-8. -/
def text? (path : Path) : Option String := Utf8.decode? path.bytes

/-- The path as text for a reader. -/
def display (path : Path) : String := Utf8.lossy path.bytes

def isEmpty (path : Path) : Bool := path.bytes.isEmpty

/-- The pieces between slashes, of which there is at least one. -/
def segments (path : Path) : List (List UInt8) := path.bytes.splitOn slash

/-- A segment that is no step: nothing, or a dot. -/
def isIdle (segment : List UInt8) : Bool := segment == [] || segment == [dot]

/-- The step that a segment other than the first stands for. -/
def step? (segment : List UInt8) : Option Component :=
  if isIdle segment then none
  else if segment = [dot, dot] then some .up
  else some (.name segment)

/-- The steps of a path. Repeated slashes, a slash at the end and inner dots leave no trace. -/
def components (path : Path) : List Component :=
  match path.segments with
  | [] => []
  | first :: rest =>
    let inner := rest.filterMap step?
    if first = [] then if rest = [] then [] else .root :: inner
    else if first = [dot] then .here :: inner
    else (step? first).toList ++ inner

/-- Paths are the same if their steps are. -/
def same (a b : Path) : Bool := a.components == b.components

/-- `name` below `dir`. An absolute `name` stands for itself. -/
def join (dir name : Path) : Path :=
  if name.bytes.head? = some slash || dir.bytes = [] then name
  else if dir.bytes.getLast? = some slash then ⟨dir.bytes ++ name.bytes⟩
  else ⟨dir.bytes ++ slash :: name.bytes⟩

/-- Segments without the idle ones at their end. -/
def trimIdle (segments : List (List UInt8)) : List (List UInt8) :=
  (segments.reverse.dropWhile isIdle).reverse

/-- The segments between the first and the last step, and the last step; nothing if the first
segment is the only step. -/
def splitEnd? (path : Path) : Option (List UInt8 × List (List UInt8) × List UInt8) :=
  match path.segments with
  | [] => none
  | first :: rest =>
    match (trimIdle rest).reverse with
    | [] => none
    | last :: middle => some (first, trimIdle middle.reverse, last)

/-- The bytes of segments with slashes between them. -/
def ofSegments (segments : List (List UInt8)) : Path := ⟨[slash].intercalate segments⟩

/-- The last step, if it is a name. -/
def fileName? (path : Path) : Option (List UInt8) :=
  match path.components.getLast? with
  | some (.name bytes) => some bytes
  | _ => none

/-- The path without its last step, spelled as it was. -/
def parent? (path : Path) : Option Path :=
  match path.splitEnd? with
  | some ([], [], _) => some ⟨[slash]⟩
  | some (first, middle, _) => some (ofSegments (first :: middle))
  | none => if path.bytes.head?.isNone || path.bytes.head? = some slash then none else some ⟨[]⟩

end Path

end TrackFinder
