import TrackFinder.Options
import TrackFinder.Settings

/-! What has to be known of a disk before a command can be carried out. -/

namespace TrackFinder

/-- Real paths and directories as they were found. -/
structure Survey where
  realPaths : List (Path × Path)
  directories : List (Path × Contents)

namespace Survey

def realPath (survey : Survey) (path : Path) : Option Path := survey.realPaths.lookup path

def reader (survey : Survey) : Reader := .ofTable Reader.place survey.directories false

/-- The paths of which a command may ask the real path. -/
def pathsFor (settings : Settings) : Command → List Path
  | .detect media _ =>
    match settings.threshold, (settings.request media).splitMedia with
    | .atLeast _, .ok (dir, name) =>
      let dirs := dir.normalize :: settings.searchPaths.map (Request.denoted dir.normalize)
      dirs ++ media :: dirs.map fun dir => dir.join (Path.ofText name)
    | _, _ => []
  | .list _ => []

/-- The directories that a command reads, in order. -/
def directoriesFor (realPath : Path → Option Path) (settings : Settings) : Command → List Path
  | .detect media _ =>
    match settings.threshold, (settings.request media).directories realPath with
    | .atLeast _, .ok dirs => dirs.map Prod.fst
    | _, _ => []
  | .list dir => [dir]

end Survey

end TrackFinder
