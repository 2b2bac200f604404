import TrackFinder.Playlist
import TrackFinder.Text

/-! Settings, read from variables. -/

namespace TrackFinder

structure Settings where
  threshold : Threshold
  searchPaths : List String
  showHidden : Bool
  ignored : String
  sort : SortMode
deriving DecidableEq

namespace Settings

def standard : Settings :=
  ⟨.standard, Request.searchPathsOf Request.standardSearchPaths, false,
    ListingOptions.standardIgnored, .collate⟩

/-- The variables that make settings. -/
def variableNames : List String :=
  ["SUB_AUTODETECT_FUZZY", "SUB_AUTODETECT_PATH", "SHOW_HIDDEN_FILES", "IGNORE_FILETYPES",
    "DIRECTORY_SORT"]

/-- The threshold that a text sets. One that sets none leaves the usual one, with a warning. -/
def thresholdOf (text : String) : Run Threshold := do
  match Text.int64? (Text.trim text.toList) with
  | none =>
    Run.log (.levelNotNumber text)
    return .standard
  | some level =>
    match Threshold.ofLevel level with
    | .ok threshold => return threshold
    | .error error =>
      Run.log (.levelInvalid text error)
      return .standard

/-- The settings that variables make. What is not set stays as usual. -/
def ofVariables (valueOf? : String → Option String) : Run Settings := do
  let threshold ←
    match valueOf? "SUB_AUTODETECT_FUZZY" with
    | some text => thresholdOf text
    | none => pure standard.threshold
  return {
    threshold := threshold
    searchPaths :=
      ((valueOf? "SUB_AUTODETECT_PATH").map Request.searchPathsOf).getD standard.searchPaths
    showHidden :=
      match valueOf? "SHOW_HIDDEN_FILES" with
      | some text => text == "true" || text == "1"
      | none => standard.showHidden
    ignored := (valueOf? "IGNORE_FILETYPES").getD standard.ignored
    sort := ((valueOf? "DIRECTORY_SORT").map SortMode.ofSetting).getD standard.sort }

/-- The request for the companions of one media file. -/
def request (settings : Settings) (media : Path) : Request :=
  ⟨media, settings.searchPaths, settings.threshold, settings.showHidden, .sidecar⟩

def listingOptions (settings : Settings) : ListingOptions :=
  ⟨settings.threshold, settings.showHidden, settings.ignored, settings.sort, false⟩

end Settings

end TrackFinder
