import TrackFinder.Json
import TrackFinder.Playlist

/-! Answers as JSON, and values of the domain read back from it. A path that is not UTF-8 has no
JSON form, nor has an answer that holds one. -/

namespace TrackFinder

def Path.toJson? (path : Path) : Option Json := path.text?.map .text

def Rejection.toJson (rejection : Rejection) : Json :=
  .object <| ("reason", .text rejection.name) ::
    match rejection with
    | .pairedWithIndex indexPath => [("index_path", .text indexPath)]
    | _ => []

def Companion.toJson (c : Companion) : Json :=
  .object <|
    [("path", .text c.path), ("kind", .text c.kind.name), ("priority", .text c.priority.name)] ++
      match c.rejection with
      | some rejection => [("rejection", rejection.toJson)]
      | none => []

def UnreadableDir.toJson? (u : UnreadableDir) : Option Json :=
  u.dir.toJson?.map fun dir => .object [("dir", dir), ("reason", .text u.reason)]

def Detection.toJson? (detection : Detection) : Option Json := do
  let media ← detection.media.toJson?
  let unreadable ← detection.unreadable.mapM UnreadableDir.toJson?
  return .object [("media_path", media),
    ("candidates", .array (detection.candidates.map Companion.toJson)),
    ("rejected", .array (detection.rejected.map Companion.toJson)),
    ("unreadable_dirs", .array unreadable)]

/-- Rejected companions are written only where there are any. -/
def Item.toJson? (item : Item) : Option Json :=
  item.path.toJson?.map fun path =>
    .object <|
      [("name", .text item.name), ("path", path), ("is_dir", .bool item.isDirectory),
        ("companions", .array (item.companions.map Companion.toJson))] ++
        if item.rejected.isEmpty then []
        else [("rejected", .array (item.rejected.map Companion.toJson))]

def Playlist.toJson? (playlist : Playlist) : Option Json := do
  let dir ← playlist.dir.toJson?
  let items ← playlist.items.mapM Item.toJson?
  return .object [("dir", dir), ("items", .array items)]

def Threshold.toJson : Threshold → Json
  | .disabled => .text "Disabled"
  | .atLeast least => .object [("AtLeast", .text least.name)]

/-- Said of an answer that has no JSON form. -/
def Json.pathNotText : String := "path contains invalid UTF-8 characters"

def Priority.ofJson? : Json → Option Priority := Json.choose? all name

def TrackKind.ofJson? : Json → Option TrackKind := Json.choose? all name

def Location.ofJson? : Json → Option Location := Json.choose? all name

def SortMode.ofJson? : Json → Option SortMode := Json.choose? all name

def Threshold.ofJson? (json : Json) : Option Threshold :=
  match json.soleField? with
  | some ("AtLeast", least) => (Priority.ofJson? least).map .atLeast
  | _ => if json.plainName? = some "Disabled" then some .disabled else none

end TrackFinder
