import TrackFinder.Path.Normal
import TrackFinder.PathFault

/-! Directory trees held in memory, with symbolic links. -/

namespace TrackFinder

/-- What stands at a place of a tree. -/
inductive Node where
  | file (text : String)
  | directory
  | link (target : Path)
deriving DecidableEq

/-- A place: the names that lead to it from the root. -/
abbrev Place := List (List UInt8)

/-- `home` is the place from which relative paths start. The root is a directory without being
listed among the nodes. -/
structure Tree where
  home : Place
  nodes : List (Place × Node)

namespace Tree

def node? (tree : Tree) (place : Place) : Option Node :=
  if place = [] then some .directory else tree.nodes.lookup place

/-- Where a path starts. -/
def origin (start : Place) (path : Path) : Place :=
  if path.bytes.head? = some Path.slash then [] else start

/-- The longest name that a directory can hold. -/
def longestName : Nat := 255

/-- How many links a path may lead over. -/
def mostLinks : Nat := 40

/-- How long a path may be to be opened. -/
def longestPath : Nat := 4095

/-- The absolute path of a place. -/
def pathOf (place : Place) : Path := ⟨Path.slash :: [Path.slash].intercalate place⟩

/-- Follows segments from a place, over at most `links` links and by no place that is out of reach.
Whatever stands before a slash must be a directory. At the end of the way there may be nothing. -/
def walkWithin (inReach : Place → Bool) (tree : Tree) (links : Nat) (place : Place) :
    List (List UInt8) → Except PathFault Place
  | [] => .ok place
  | segment :: rest =>
    if tree.node? place ≠ some .directory then .error .notDirectory
    else if Path.isIdle segment then walkWithin inReach tree links place rest
    else if segment = [Path.dot, Path.dot] then walkWithin inReach tree links place.dropLast rest
    else if longestName < segment.length || !inReach (place ++ [segment]) then .error .nameTooLong
    else
      match tree.node? (place ++ [segment]) with
      | none => if rest = [] then .ok (place ++ [segment]) else .error .notFound
      | some (.link target) =>
        match links with
        | 0 => .error .tooManyLinks
        | links + 1 =>
          walkWithin inReach tree links (origin place target) (target.segments ++ rest)
      | some _ => walkWithin inReach tree links (place ++ [segment]) rest
termination_by segments => (links, segments.length)

def walk : Tree → Nat → Place → List (List UInt8) → Except PathFault Place :=
  walkWithin fun _ => true

/-- The place that a path leads to, where something stands. -/
def trace (inReach : Place → Bool) (tree : Tree) (path : Path) : Except PathFault Place :=
  if path.bytes.contains 0 then .error .zeroByte
  else if path.isEmpty then .error .notFound
  else
    match walkWithin inReach tree mostLinks (origin tree.home path) path.segments with
    | .ok place => if (tree.node? place).isSome then .ok place else .error .notFound
    | .error fault => .error fault

/-- The place that is found when a path is opened. -/
def locate (tree : Tree) (path : Path) : Except PathFault Place :=
  if !path.bytes.contains 0 && longestPath < path.bytes.length then .error .nameTooLong
  else tree.trace (fun _ => true) path

/-- Whether the absolute path of a place can be opened. -/
def isSpellable (place : Place) : Bool := (pathOf place).bytes.length ≤ longestPath

/-- The real path of whatever a path leads to. The path may be of any length, since it is followed
step by step, and each step is made from the absolute path that it has led to. -/
def realPath (tree : Tree) (path : Path) : Option Path :=
  match tree.trace isSpellable path with
  | .ok place => some (pathOf place)
  | .error _ => none

/-- A tree with no more than the directories down to `home`. -/
def atHome (home : Place) : Tree :=
  ⟨home, (List.range home.length).map fun n => (home.take (n + 1), .directory)⟩

/-- The text of a file. -/
def text? (tree : Tree) (path : Path) : Option String :=
  match tree.locate path with
  | .ok place =>
    match tree.node? place with
    | some (.file text) => some text
    | _ => none
  | .error _ => none

/-- The text of the nearest file of that name, sought from home towards the root. -/
def nearestText? (tree : Tree) (name : String) : Option String :=
  (pathOf tree.home).ancestors.findSome? fun dir => tree.text? (dir.join (Path.ofText name))

end Tree

end TrackFinder
