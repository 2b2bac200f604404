import TrackFinder.Path

/-! The command line. -/

namespace TrackFinder

inductive LogFormat where
  | json
  | pretty
deriving DecidableEq

inductive UsageError where
  | formatMissing
  | formatUnknown (text : String)
  | optionUnknown (text : String)
  | commandUnclear
deriving DecidableEq

namespace UsageError

def usage : String :=
  "usage: companions [--log-format json|pretty] " ++
    "<detect <media-file> [--all] | list <directory>>"

def message : UsageError → String
  | formatMissing => "--log-format needs a value"
  | formatUnknown text => "unknown log format: " ++ text
  | optionUnknown text => "unknown option " ++ text ++ "\n" ++ usage
  | commandUnclear => usage

end UsageError

namespace LogFormat

def name : LogFormat → String
  | json => "json"
  | pretty => "pretty"

def ofText (text : String) : Except UsageError LogFormat :=
  if text = "json" then .ok json
  else if text = "pretty" || text = "text" then .ok pretty
  else .error (.formatUnknown text)

end LogFormat

/-- `showRejected` keeps the rejected companions in the answer. -/
inductive Command where
  | detect (media : Path) (showRejected : Bool)
  | list (dir : Path)
deriving DecidableEq

structure Options where
  command : Command
  logFormat : LogFormat
deriving DecidableEq

namespace Options

/-- What the arguments read so far say. -/
structure Heard where
  showRejected : Bool
  logFormat : LogFormat
  plain : List String
deriving DecidableEq

def Heard.nothing : Heard := ⟨false, .json, []⟩

/-- The value that an argument gives for the log format. -/
def formatValue? (argument : String) : Option String :=
  (Text.stripLead "--log-format=".toList argument.toList).map String.ofList

/-- Reads the arguments from left to right; the first fault counts. -/
def hear (heard : Heard) : List String → Except UsageError Heard
  | [] => .ok heard
  | argument :: rest =>
    if argument = "--all" then hear { heard with showRejected := true } rest
    else if argument = "--log-format" then
      match rest with
      | [] => .error .formatMissing
      | value :: rest =>
        match LogFormat.ofText value with
        | .ok format => hear { heard with logFormat := format } rest
        | .error error => .error error
    else
      match formatValue? argument with
      | some value =>
        match LogFormat.ofText value with
        | .ok format => hear { heard with logFormat := format } rest
        | .error error => .error error
      | none =>
        if "--".toList.isPrefixOf argument.toList then .error (.optionUnknown argument)
        else hear { heard with plain := heard.plain ++ [argument] } rest

/-- The command that the plain arguments give. -/
def command? (heard : Heard) : Option Command :=
  match heard.plain with
  | [verb, path] =>
    if verb = "detect" then some (.detect (Path.ofText path) heard.showRejected)
    else if verb = "list" then some (.list (Path.ofText path))
    else none
  | _ => none

def ofArguments (arguments : List String) : Except UsageError Options :=
  match hear .nothing arguments with
  | .error error => .error error
  | .ok heard =>
    match command? heard with
    | some command => .ok ⟨command, heard.logFormat⟩
    | none => .error .commandUnclear

end Options

end TrackFinder
