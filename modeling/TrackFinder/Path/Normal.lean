import TrackFinder.Path

/-! The normal form of a path, without dots and without steps up after names, and the identity of
files behind paths. -/

namespace TrackFinder.Path

/-- One more step after the steps taken, of which the last comes first. A step up takes back a name
and leads nowhere from the root. -/
def collapse (taken : List Component) : Component → List Component
  | .here => taken
  | .up =>
    match taken with
    | .name _ :: rest => rest
    | .root :: rest => .root :: rest
    | taken => .up :: taken
  | c => c :: taken

/-- The bytes of a step other than the root. -/
def stepBytes : Component → List UInt8
  | .root => []
  | .here => [dot]
  | .up => [dot, dot]
  | .name bytes => bytes

/-- The path of the given steps; the path of none is `.`. -/
def ofComponents : List Component → Path
  | [] => ⟨[dot]⟩
  | .root :: steps => ⟨slash :: [slash].intercalate (steps.map stepBytes)⟩
  | steps => ofSegments (steps.map stepBytes)

/-- The normal form. Only the spelling of the path decides; links are not followed. -/
def normalize (path : Path) : Path :=
  ofComponents (path.components.foldl collapse []).reverse

/-- The path and what is above it, the root last. -/
def ancestors (path : Path) : List Path :=
  let steps := path.components
  (List.range steps.length).map fun n => ofComponents (steps.take (steps.length - n))

/-- The path under which a file is told from others: the real one where `realPath` knows it, else
the normal form. -/
def resolve (realPath : Path → Option Path) (path : Path) : Path :=
  (realPath path).getD path.normalize

/-- Whether two paths lead to the same file, by their spelling or by `realPath`. -/
def sameFile (realPath : Path → Option Path) (a b : Path) : Bool :=
  a.normalize.same b.normalize ||
    match realPath a, realPath b with
    | some a, some b => a.same b
    | _, _ => false

end TrackFinder.Path
