import TrackFinder.Priority
import TrackFinder.TrackKind

/-! Companion tracks, and why one is dropped. -/

namespace TrackFinder

/-- A subtitle stream gives way to its index; a karaoke track needs the very name of the media. -/
inductive Rejection where
  | emptyPath
  | pairedWithIndex (indexPath : String)
  | weakKaraokeMatch
deriving DecidableEq

namespace Rejection

def name : Rejection → String
  | emptyPath => "empty_path"
  | pairedWithIndex _ => "paired_with_index"
  | weakKaraokeMatch => "weak_karaoke_match"

def message : Rejection → String
  | emptyPath => "empty path"
  | pairedWithIndex indexPath => s!"superseded by index file {indexPath}"
  | weakKaraokeMatch => "cdg without exact name match"

end Rejection

structure Companion where
  path : String
  kind : TrackKind
  priority : Priority
  rejection : Option Rejection
deriving DecidableEq

namespace Companion

/-- A companion as it is found. One without a path is rejected from the start. -/
def found (path : String) (kind : TrackKind) (priority : Priority) : Companion :=
  ⟨path, kind, priority, if path = "" then some .emptyPath else none⟩

def isRejected (c : Companion) : Bool := c.rejection.isSome

/-- Rejects a companion. The first rejection stands. -/
def reject (reason : Rejection) (c : Companion) : Companion :=
  { c with rejection := c.rejection.or (some reason) }

/-- The path after its last slash. -/
def fileName (c : Companion) : FileName :=
  match Text.cutLast '/' c.path.toList with
  | some (_, after) => String.ofList after
  | none => c.path

def extension? (c : Companion) : Option String := c.fileName.extension?

/-- Whether the extension is `extension`, in any case. -/
def hasExtension (extension : String) (c : Companion) : Bool :=
  match c.extension? with
  | some e => Ascii.same e.toList extension.toList
  | none => false

/-- The path up to its last dot. -/
def stem? (c : Companion) : Option String :=
  (Text.cutLast '.' c.path.toList).map fun (before, _) => String.ofList before

/-- The accepted ones and the rejected ones, each in the order given. -/
def split (companions : List Companion) : List Companion × List Companion :=
  companions.partition fun c => !c.isRejected

end Companion

end TrackFinder
