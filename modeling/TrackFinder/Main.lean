import TrackFinder.Log.Line
import TrackFinder.PathFault
import TrackFinder.Program
import TrackFinder.Survey

/-! The program: it gathers what a run depends on and prints what the run leaves behind. -/

namespace TrackFinder.Disk

/-- The system's number of an error, and its words for it. Some numbers come with their sign
turned. -/
def systemError? : IO.Error → Option (Nat × String)
  | .noFileOrDirectory _ code text | .permissionDenied _ code text
  | .inappropriateType _ code text | .invalidArgument _ code text
  | .resourceExhausted _ code text | .noSuchThing _ code text | .otherError code text
  | .hardwareFault code text | .unsatisfiedConstraints code text =>
    some ((if code < 0x80000000 then code else 0 - code).toNat, text)
  | _ => none

def systemText (error : IO.Error) : String :=
  match systemError? error with
  | some (code, text) =>
    match PathFault.ofCode? code with
    | some fault => fault.message
    | none => PathFault.withCode text (some code)
  | none => toString error

def failure (dir : Path) (error : IO.Error) : ReadFailure :=
  let fault? := (systemError? error).bind fun (code, _) => PathFault.ofCode? code
  .ofMessage dir (fault? = some .notFound) (systemText error)

def typeOf : IO.FS.FileType → FileType
  | .file => .file
  | .dir => .directory
  | _ => .other

def realPath? (path : Path) : IO (Option Path) := do
  if path.isEmpty then return none
  try
    return some (Path.ofText (← IO.FS.realPath ((← IO.currentDir) / path.display)).toString)
  catch _ => return none

/-- An entry with links followed; a note if it leads nowhere or back to its directory. -/
def entry (dir : Path) (name : FileName) : IO (Except Note (FileName × FileType)) := do
  let path := dir.join (Path.ofText name)
  try
    let place := (← IO.currentDir) / path.display
    let info ← place.symlinkMetadata
    if info.type != .symlink then return .ok (name, typeOf info.type)
    else
      let info ← place.metadata
      if (← realPath? path) = (← realPath? dir) then
        return .error (.entryUnreadable dir (path.loopFound dir))
      else return .ok (name, typeOf info.type)
  catch error =>
    return .error (.entryUnreadable dir (path.operationFailed (systemText error)))

/-- What a directory holds, in byte order. A file holds nothing. -/
def contents (dir : Path) : IO Contents := do
  try
    if dir.isEmpty then throw (.noFileOrDirectory "" 2 "No such file or directory")
    let place := (← IO.currentDir) / dir.display
    let names ←
      if (← place.metadata).type == .dir then
        pure ((← place.readDir).toList.map fun found => found.fileName)
      else pure []
    return .ofEntries (← (Order.sort Order.plain names).mapM (entry dir))
  catch error => return .failed (failure dir error)

/-- The text of the nearest file of that name, sought from the current directory towards the
root. -/
def nearestText? (name : String) : IO (Option String) := do
  for dir in (Path.ofText (← IO.currentDir).toString).ancestors do
    try
      return some (← IO.FS.readFile (dir.join (Path.ofText name)).display)
    catch _ => continue
  return none

/-- Finds out what a command needs to know. -/
def survey (settings : Settings) (command : Command) : IO Survey := do
  let realPaths ← (Survey.pathsFor settings command).filterMapM fun path =>
    return (← realPath? path).map fun real => (path, real)
  let dirs := Survey.directoriesFor (fun path => realPaths.lookup path) settings command
  return ⟨realPaths, ← dirs.mapM fun dir => return (dir, ← contents dir)⟩

end TrackFinder.Disk

open TrackFinder

def main (arguments : List String) : IO UInt32 := do
  let file ← Disk.nearestText? ".env"
  let names :=
    Settings.variableNames ++ [Program.filterVariable] ++ EnvFile.mentioned (file.getD "")
  let known ← names.filterMapM fun name => return (← IO.getEnv name).map fun value => (name, value)
  let valueOf? := EnvFile.extend (fun name => known.lookup name) file
  let options := Options.ofArguments arguments
  let survey ←
    match options with
    | .ok options => Disk.survey (Settings.ofVariables valueOf?).value options.command
    | .error _ => pure ⟨[], []⟩
  let outcome := Program.run LogTargets.standard survey.realPath survey.reader valueOf? arguments
  let format := (options.map Options.logFormat).toOption.getD .json
  for event in outcome.events do
    IO.eprintln (event.line format)
  IO.eprint outcome.report
  IO.print outcome.output
  return UInt32.ofNat outcome.exitCode
