import TrackFinder.FileName
import TrackFinder.Path
import TrackFinder.Priority

/-! Entries of directories. -/

namespace TrackFinder

/-- What an entry is once links are followed. -/
inductive FileType where
  | file
  | directory
  | other
deriving DecidableEq

def FileType.all : List FileType := [file, directory, other]

def FileType.name : FileType → String
  | file => "file"
  | directory => "directory"
  | other => "other"

structure Entry where
  name : FileName
  dir : Path
  location : Location
  type : FileType
deriving DecidableEq

namespace Entry

def path (entry : Entry) : Path := entry.dir.join (Path.ofText entry.name)

def isFile (entry : Entry) : Bool := entry.type == .file

def isDirectory (entry : Entry) : Bool := entry.type == .directory

/-- Entries that are passed over: nameless ones, `.` and `..`, and dot-files unless they are
shown. -/
def isSkipped (entry : Entry) (showHidden : Bool) : Bool :=
  entry.name == "" || entry.name == "." || entry.name == ".." ||
    (!showHidden && entry.name.toList.head? == some '.')

end Entry

end TrackFinder
