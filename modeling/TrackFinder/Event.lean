import TrackFinder.Companion
import TrackFinder.Error
import TrackFinder.Json
import TrackFinder.Order.Listing

/-! What a run tells of itself in its log. -/

namespace TrackFinder

/-- Levels of the log, the gravest first. -/
inductive Level where
  | error
  | warn
  | info
  | debug
  | trace
deriving DecidableEq

namespace Level

def all : List Level := [error, warn, info, debug, trace]

def name : Level → String
  | error => "ERROR"
  | warn => "WARN"
  | info => "INFO"
  | debug => "DEBUG"
  | trace => "TRACE"

def rank : Level → Nat
  | error => 1
  | warn => 2
  | info => 3
  | debug => 4
  | trace => 5

end Level

/-- The parts of the program that events come from. -/
inductive Origin where
  | settings
  | search
  | conflict
  | detection
  | playlist
  | program
deriving DecidableEq

/-- What the reading of a directory tells of entries that it passes over. -/
inductive Note where
  | nameNotText (path : Path)
  | entryUnreadable (dir : Path) (reason : String)
deriving DecidableEq

namespace Note

def message : Note → String
  | nameNotText _ => "Skipping non UTF-8 file name"
  | entryUnreadable .. => "Skipping unreadable entry"

def details : Note → List (String × Json)
  | nameNotText path => [("path", .text path.display)]
  | entryUnreadable dir reason => [("dir", .text dir.display), ("error", .text reason)]

end Note

inductive Event where
  | scanning (dir : Path)
  | extraMissing (dir : Path)
  | unreadable (error : Error)
  | noted (note : Note)
  | pathNotText (path : Path)
  | detected (path : String) (priority : Priority)
  | rejected (path : String) (reason : Rejection)
  | disabled (media : Path)
  | finished (media : Path) (accepted rejected unreadable : Nat)
  | attachmentSkipped (item : FileName) (error : Error)
  | listed (dir : Path) (items companions : Nat) (sort : SortMode)
  | levelInvalid (value : String) (error : Error)
  | levelNotNumber (value : String)
  | configured (settings : String)
  | detectionComplete (media : Path) (found rejected : Nat)
  | listingComplete (dir : Path) (items : Nat)
deriving DecidableEq

namespace Event

def level : Event → Level
  | unreadable _ | pathNotText _ | levelInvalid .. | levelNotNumber _ => .warn
  | detectionComplete .. | listingComplete .. => .info
  | _ => .debug

/-- The part of the program that an event comes from. -/
def origin : Event → Origin
  | levelInvalid .. | levelNotNumber _ => .settings
  | scanning _ | extraMissing _ | unreadable _ | noted _ | pathNotText _ | detected .. => .search
  | rejected .. => .conflict
  | disabled _ | finished .. => .detection
  | attachmentSkipped .. | listed .. => .playlist
  | configured _ | detectionComplete .. | listingComplete .. => .program

def message : Event → String
  | scanning _ => "Looking for companion files"
  | extraMissing _ => "Extra search directory does not exist"
  | unreadable _ => "Skipping unreadable search directory"
  | noted note => note.message
  | pathNotText _ => "Skipping companion with non UTF-8 path"
  | detected .. => "Autodetected companion"
  | rejected .. => "Rejected companion"
  | disabled _ => "Companion detection disabled"
  | finished .. => "Companion detection finished"
  | attachmentSkipped .. => "Skipping companion attachment"
  | listed .. => "Directory listed"
  | levelInvalid .. => "Invalid SUB_AUTODETECT_FUZZY, using default"
  | levelNotNumber _ => "SUB_AUTODETECT_FUZZY is not a number, using default"
  | configured _ => "Configuration loaded"
  | detectionComplete .. => "Companion detection complete"
  | listingComplete .. => "Directory listing complete"

def count (n : Nat) : Json := .number n

/-- What the event tells besides its message. -/
def details : Event → List (String × Json)
  | scanning dir | extraMissing dir => [("dir", .text dir.display)]
  | unreadable error => [("error", .text error.message)]
  | noted note => note.details
  | pathNotText path => [("path", .text path.display)]
  | detected path priority => [("path", .text path), ("priority", .text priority.name)]
  | rejected path reason => [("path", .text path), ("reason", .text reason.message)]
  | disabled media => [("media", .text media.display)]
  | finished media accepted dropped failed =>
    [("media", .text media.display), ("accepted", count accepted), ("rejected", count dropped),
      ("unreadable", count failed)]
  | attachmentSkipped item error => [("item", .text item), ("error", .text error.message)]
  | listed dir items companions sort =>
    [("dir", .text dir.display), ("items", count items), ("companions", count companions),
      ("sort", .text sort.name)]
  | levelInvalid value error => [("value", .text value), ("error", .text error.message)]
  | levelNotNumber value => [("value", .text value)]
  | configured settings => [("config", .text settings)]
  | detectionComplete media found dropped =>
    [("media", .text media.display), ("found", count found), ("rejected", count dropped)]
  | listingComplete dir items => [("dir", .text dir.display), ("items", count items)]

/-- All that the event tells, by name. -/
def fields (event : Event) : List (String × Json) :=
  ("message", .text event.message) :: event.details

/-- The event as it is logged. -/
def toJson (event : Event) : Json :=
  .object [("level", .text event.level.name), ("fields", .object event.fields)]

end Event

end TrackFinder
