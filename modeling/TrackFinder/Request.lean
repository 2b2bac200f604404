import TrackFinder.Entry
import TrackFinder.Path.Normal
import TrackFinder.Text
import TrackFinder.Threshold

/-! What a search for companions is asked for, and where it has to look. -/

namespace TrackFinder

/-- Who asks: a search for one media file, or a listing, whose companions all lie beside it. -/
inductive Mode where
  | sidecar
  | listing
deriving DecidableEq

namespace Mode

def all : List Mode := [sidecar, listing]

def name : Mode → String
  | sidecar => "sidecar"
  | listing => "listing"

/-- Where an entry counts as lying. In a listing there is only one directory. -/
def locate : Mode → Location → Location
  | sidecar, location => location
  | listing, _ => .primary

end Mode

/-- A search path that starts with a dot is relative to the media file's directory. -/
structure Request where
  media : Path
  searchPaths : List String
  threshold : Threshold
  showHidden : Bool
  mode : Mode
deriving DecidableEq

namespace Request

/-- The search paths written in a comma-separated list. -/
def searchPathsOf (list : String) : List String := Text.commaItems list

def standardSearchPaths : String := "./Subtitles, ./subtitles, ./Subs, ./subs"

/-- A request for `media` that leaves all else as usual. -/
def standard (media : Path) : Request :=
  ⟨media, searchPathsOf standardSearchPaths, .standard, false, .sidecar⟩

/-- The media file's directory, as it is spelled, and name. -/
def splitMedia (request : Request) : Except Error (Path × FileName) :=
  if request.media.isEmpty then .error .emptyPath
  else
    match request.media.fileName?.bind Utf8.decode?, request.media.parent? with
    | some name, some dir => .ok (if dir.isEmpty then Path.ofText "." else dir, name)
    | _, _ => .error (.noFileName request.media)

/-- The directory that a search path denotes, given the media file's. -/
def denoted (mediaDir : Path) (searchPath : String) : Path :=
  if searchPath.toList.head? = some '.' then (mediaDir.join (Path.ofText searchPath)).normalize
  else (Path.ofText searchPath).normalize

/-- The extra directories of search paths that lead to none of the files in `seen`, nor to one
before. -/
def extraDirectories (realPath : Path → Option Path) (mediaDir : Path) (seen : List Path) :
    List String → List (Path × Location)
  | [] => []
  | searchPath :: rest =>
    let dir := denoted mediaDir searchPath
    let resolved := dir.resolve realPath
    if seen.any resolved.same then extraDirectories realPath mediaDir seen rest
    else (dir, .extra) :: extraDirectories realPath mediaDir (resolved :: seen) rest

/-- The directories to search, in order and without repeats: the media file's own, then the
extra ones. -/
def directories (realPath : Path → Option Path) (request : Request) :
    Except Error (List (Path × Location)) :=
  match request.splitMedia with
  | .error error => .error error
  | .ok (dir, _) =>
    let mediaDir := dir.normalize
    .ok ((mediaDir, .primary) ::
      extraDirectories realPath mediaDir [mediaDir.resolve realPath] request.searchPaths)

end Request

end TrackFinder
