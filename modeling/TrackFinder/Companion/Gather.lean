import TrackFinder.Request
import TrackFinder.Scan

/-! Choosing the companions of a media file among scanned entries. -/

namespace TrackFinder.Request

/-- The kind and priority of an entry that may be a companion of a media file whose name has the
given key. -/
def judge (request : Request) (mediaKey : String) (entry : Entry) :
    Option (TrackKind × Priority) :=
  if entry.isSkipped request.showHidden then none
  else
    match TrackKind.ofFileName? entry.name with
    | none => none
    | some kind =>
      let priority := Priority.ofEntry entry.name.key mediaKey (request.mode.locate entry.location)
      if request.threshold.accepts priority && entry.isFile then some (kind, priority) else none

/-- Adds the companion that an entry is, if it is one. The media file is none of its own, however
its directory is spelled. -/
def consider (realPath : Path → Option Path) (request : Request) (mediaName : FileName)
    (found : List Companion) (entry : Entry) : Run (List Companion) := do
  match request.judge mediaName.key entry with
  | none => return found
  | some (kind, priority) =>
    if entry.name = mediaName && entry.path.sameFile realPath request.media then return found
    else
      match entry.path.text? with
      | none =>
        Run.log (.pathNotText entry.path)
        return found
      | some path =>
        Run.log (.detected path priority)
        return found ++ [Companion.found path kind priority]

/-- The companions among the entries of a scan, in the order scanned, and the scan as it is left.
A search that is turned off pulls nothing. -/
def gather (realPath : Path → Option Path) (request : Request) (scan : Scan) :
    Run (Except Error (List Companion × Scan)) := do
  if request.threshold = .disabled then return .ok ([], scan)
  else
    match request.splitMedia with
    | .error error => return .error error
    | .ok (_, mediaName) => return .ok (← scan.fold (request.consider realPath mediaName) [])

end TrackFinder.Request
