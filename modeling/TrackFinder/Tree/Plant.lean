import TrackFinder.Tree

/-! How a tree is filled. What is missing on the way to a new node is made first; what cannot be
made is left out. -/

namespace TrackFinder.Tree

/-- Puts a node at a place, over whatever stands there. -/
def set (tree : Tree) (place : Place) (node : Node) : Tree :=
  { tree with nodes := tree.nodes.filter (fun entry => entry.1 ≠ place) ++ [(place, node)] }

/-- Whether a directory can take a new node of some name. -/
def admits (tree : Tree) (dir : Place) (name : List UInt8) : Bool :=
  tree.node? dir = some .directory && name.length ≤ longestName
    && (tree.node? (dir ++ [name])).isNone

/-- Makes a node where segments end. Links are followed on the way only: one that stands at the end
keeps its place, as all else does. -/
def make (tree : Tree) (start : Place) (node : Node) (segments : List (List UInt8)) : Tree :=
  match tree.walk mostLinks start segments.dropLast, segments.getLast?.bind Path.step? with
  | .ok dir, some (.name name) =>
    if tree.admits dir name then tree.set (dir ++ [name]) node else tree
  | _, _ => tree

/-- Writes a text to the file where segments end. Links are followed, and a file is made if none is
at the end. -/
def write (tree : Tree) (start : Place) (text : String) (segments : List (List UInt8)) : Tree :=
  match tree.walk mostLinks start segments with
  | .ok place =>
    if tree.node? place = some .directory then tree else tree.set place (.file text)
  | .error _ => tree

/-- Makes the directories that segments lead over. -/
def makeWay (tree : Tree) (start : Place) (segments : List (List UInt8)) : Tree :=
  (List.range segments.length).foldl
    (fun tree n => tree.make start .directory (segments.take (n + 1))) tree

/-- Puts a node at a path. A text goes into the file that is there; a directory or a link is made
only where nothing is. Only a directory may be spelled with a slash at its end. -/
def plant (tree : Tree) (path : Path) (node : Node) : Tree :=
  let start := origin tree.home path
  let steps := Path.trimIdle path.segments
  let tree := tree.makeWay start steps.dropLast
  match node with
  | .file text => tree.write start text path.segments
  | .directory => tree.make start .directory steps
  | .link target => tree.make start (.link target) path.segments

end TrackFinder.Tree
