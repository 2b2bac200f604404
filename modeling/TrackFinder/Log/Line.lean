import TrackFinder.Event
import TrackFinder.Options
import TrackFinder.Settings
import TrackFinder.Text.Unseen

/-! Lines of the log: events, and the settings that one of them tells. -/

namespace TrackFinder

namespace Event

def detailText : String × Json → String
  | (key, .text value) => " " ++ key ++ "=" ++ value
  | (key, value) => " " ++ key ++ "=" ++ value.compact

/-- One line: a JSON object, or words for a reader. -/
def line (format : LogFormat) (event : Event) : String :=
  match format with
  | .json => event.toJson.compact
  | .pretty =>
    event.level.name ++ " " ++ event.message ++ String.join (event.details.map detailText)

end Event

namespace Settings

def shownChar (c : Char) : List Char :=
  if c = '"' then ['\\', '"']
  else if c = '\\' then ['\\', '\\']
  else if c = '\n' then ['\\', 'n']
  else if c = '\r' then ['\\', 'r']
  else if c = '\t' then ['\\', 't']
  else if c.toNat = 0 then ['\\', '0']
  else if Text.isUnseen c then ['\\', 'u', '\x7b'] ++ Nat.toDigits 16 c.toNat ++ ['\x7d']
  else [c]

def shown (text : String) : String :=
  String.ofList ('"' :: text.toList.flatMap shownChar ++ ['"'])

def thresholdSummary : Threshold → String
  | .disabled => "Disabled"
  | .atLeast .none => "AtLeast(None)"
  | .atLeast .matchNone => "AtLeast(MatchNone)"
  | .atLeast .matchRight => "AtLeast(MatchRight)"
  | .atLeast .matchLeft => "AtLeast(MatchLeft)"
  | .atLeast .matchAll => "AtLeast(MatchAll)"

def sortSummary : SortMode → String
  | .none => "None"
  | .version => "Version"
  | .collate => "Collate"

def summary (settings : Settings) : String :=
  "Config \x7b threshold: " ++ thresholdSummary settings.threshold ++
    ", search_paths: [" ++ ", ".intercalate (settings.searchPaths.map shown) ++
    "], show_hidden_files: " ++ (if settings.showHidden then "true" else "false") ++
    ", ignored_extensions: " ++ shown settings.ignored ++
    ", directory_sort: " ++ sortSummary settings.sort ++ " \x7d"

end Settings

end TrackFinder
