import TrackFinder.Order.Text
import TrackFinder.Reader
import TrackFinder.Tree

/-! Listing the directories of a tree. -/

namespace TrackFinder.Tree

/-- The names in a directory, in byte order. -/
def namesIn (tree : Tree) (place : Place) : List (List UInt8) :=
  Order.sort Order.bytes <| tree.nodes.filterMap fun (p, _) =>
    match p.getLast? with
    | some name => if p.dropLast = place then some name else none
    | none => none

def typeOf (tree : Tree) (place : Place) : FileType :=
  match tree.node? place with
  | some (.file _) => .file
  | some .directory => .directory
  | _ => .other

/-- The place that an entry stands for. A link is followed by its path, and must not lead back to
the directory it was found in. -/
def follow (tree : Tree) (dir : Path) (place : Place) (name : List UInt8) : Except Note Place :=
  let path := dir.join ⟨name⟩
  match tree.node? (place ++ [name]) with
  | some (.link _) =>
    match tree.locate path with
    | .error fault => .error (.entryUnreadable dir (path.operationFailed fault.message))
    | .ok target =>
      if target = place then .error (.entryUnreadable dir (path.loopFound dir)) else .ok target
  | _ => .ok (place ++ [name])

/-- The name and type of an entry. An entry that leads nowhere or in a circle, or whose name is not
text, comes to no more than a note. -/
def entry (tree : Tree) (dir : Path) (place : Place) (name : List UInt8) :
    Except Note (FileName × FileType) := do
  let target ← tree.follow dir place name
  match Utf8.decode? name with
  | some text => return (text, tree.typeOf target)
  | none => throw (.nameNotText (dir.join ⟨name⟩))

/-- What a directory holds. A file, which holds nothing, can be listed too. -/
def contents (tree : Tree) (dir : Path) : Contents :=
  match tree.locate dir with
  | .error fault => .failed (.ofMessage dir (fault = .notFound) fault.message)
  | .ok place =>
    .ofEntries <|
      if tree.typeOf place = .directory then (tree.namesIn place).map (tree.entry dir place) else []

/-- Reads the directories of a tree. -/
def reader (tree : Tree) (sorted : Bool) : Reader where
  entries dir location := (tree.contents dir).map (Reader.place dir location)
  sorted := sorted

end TrackFinder.Tree
