import TrackFinder.Path

/-! What can go wrong, by cause, and the wording of each. -/

namespace TrackFinder

/-- Why a directory could not be read. `missing` says that it does not exist; `cause` is the text of
a deeper error that `text` already tells of. -/
structure ReadFailure where
  missing : Bool
  text : String
  cause : Option String
deriving DecidableEq

inductive Error where
  | emptyPath
  | noFileName (media : Path)
  | invalidLevel (level : Int)
  | invalidSort (text : String)
  | unreadable (dir : Path) (failure : ReadFailure)
deriving DecidableEq

namespace Error

def message : Error → String
  | emptyPath => "media path is empty"
  | noFileName media => s!"media path has no file name: {media.display}"
  | invalidLevel level => s!"invalid match threshold {level} (expected 0-4)"
  | invalidSort text => s!"invalid sort mode: {text}"
  | unreadable dir failure => s!"failed to read directory {dir.display}: {failure.text}"

/-- The errors behind this one, the deepest last. -/
def causes : Error → List String
  | unreadable _ failure => failure.text :: failure.cause.toList
  | _ => []

end Error

end TrackFinder
