import TrackFinder.EnvFile
import TrackFinder.Json.Value
import TrackFinder.Log.Filter
import TrackFinder.Log.Line
import TrackFinder.Options
import TrackFinder.Settings

/-! A run of the command line, from arguments and variables to output. -/

namespace TrackFinder

/-- An error as it is reported, with the errors behind it. -/
structure Failure where
  text : String
  causes : List String
deriving DecidableEq

namespace Failure

/-- A text whose further lines are indented by `width`. -/
def indentLines (width : Nat) (text : String) : String :=
  let gap := '\n' :: List.replicate width ' '
  String.ofList (text.toList.flatMap fun c => if c = '\n' then gap else [c])

/-- Causes with a number each, from `n` on. -/
def numbered (n : Nat) : List String → String
  | [] => ""
  | cause :: rest =>
    "\n    " ++ toString n ++ ": " ++ indentLines 7 cause ++ numbered (n + 1) rest

def report (failure : Failure) : String :=
  "Error: " ++ failure.text ++
    (match failure.causes with
    | [] => ""
    | [cause] => "\n\nCaused by:\n    " ++ indentLines 4 cause
    | causes => "\n\nCaused by:" ++ numbered 0 causes) ++ "\n"

end Failure

/-- What a run leaves behind. -/
structure Outcome where
  exitCode : Nat
  output : String
  report : String
  events : List Event
deriving DecidableEq

namespace Program

/-- The text of an answer, if it has one. -/
def write : Option Json → Except Failure String
  | some json => .ok (json.pretty ++ "\n")
  | none => .error ⟨Json.pathNotText, []⟩

/-- The answer to a command, as JSON text. -/
def answer (realPath : Path → Option Path) (reader : Reader) (settings : Settings) :
    Command → Run (Except Failure String)
  | .detect media showRejected => do
    match ← (settings.request media).detect realPath reader Order.ascii with
    | .error error =>
      return .error ⟨"Companion detection failed for " ++ media.display,
        error.message :: error.causes⟩
    | .ok detection =>
      Run.log (.detectionComplete media detection.candidates.length detection.rejected.length)
      let shown := if showRejected then detection else { detection with rejected := [] }
      return write shown.toJson?
  | .list dir => do
    match ← Playlist.ofDirectory realPath reader Order.ascii settings.listingOptions dir with
    | .error error =>
      return .error ⟨"Unable to read directory " ++ dir.display, error.message :: error.causes⟩
    | .ok playlist =>
      Run.log (.listingComplete dir playlist.items.length)
      return write playlist.toJson?

/-- The variable that holds the filter of the log. -/
def filterVariable : String := "RUST_LOG"

/-- The filter that the variables ask for. -/
def filterOf (valueOf? : String → Option String) : LogFilter :=
  ((valueOf? filterVariable).bind LogFilter.ofText?).getD .standard

/-- Settings are read and the command is carried out. -/
def perform (realPath : Path → Option Path) (reader : Reader) (valueOf? : String → Option String)
    (command : Command) : Run (Except Failure String) := do
  let settings ← Settings.ofVariables valueOf?
  Run.log (.configured settings.summary)
  answer realPath reader settings command

/-- A whole run. `valueOf?` gives the variables, those of a file among them. -/
def run (targets : LogTargets) (realPath : Path → Option Path) (reader : Reader)
    (valueOf? : String → Option String) (arguments : List String) : Outcome :=
  match Options.ofArguments arguments with
  | .error error => ⟨1, "", Failure.report ⟨error.message, []⟩, []⟩
  | .ok options =>
    let result := perform realPath reader valueOf? options.command
    let events := result.events.filter ((filterOf valueOf?).admits targets)
    match result.value with
    | .ok text => ⟨0, text, "", events⟩
    | .error failure => ⟨1, "", failure.report, events⟩

end Program

end TrackFinder
