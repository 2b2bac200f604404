import TrackFinder.Reader

/-! Going through the entries of several directories, each read no sooner than it is needed. -/

namespace TrackFinder

/-- A directory that could not be read, and why. -/
structure UnreadableDir where
  dir : Path
  reason : String
deriving DecidableEq

/-- A scan under way: the directories still to read, the entries at hand, and the directories that
could not be read. -/
structure Scan where
  reader : Reader
  pending : List (Path × Location)
  buffer : List Entry
  failures : List UnreadableDir

namespace Scan

variable {β : Type}

/-- A scan of which nothing is read yet. -/
def start (reader : Reader) (dirs : List (Path × Location)) : Scan := ⟨reader, dirs, [], []⟩

/-- A scan of entries at hand. -/
def ofEntries (entries : List Entry) : Scan := ⟨.ofTable Reader.place [] false, [], entries, []⟩

/-- Reads a directory. One that cannot be read has no entries and is reported, unless it is an extra
directory that does not exist. -/
def visit (reader : Reader) (dir : Path) (location : Location) :
    Run (List Entry × List UnreadableDir) := do
  Run.log (.scanning dir)
  match ← reader.read dir location with
  | .ok entries => return (entries, [])
  | .error failure =>
    if location = .extra && failure.missing then
      Run.log (.extraMissing dir)
      return ([], [])
    else
      let error := Error.unreadable dir failure
      Run.log (.unreadable error)
      return ([], [⟨dir, error.message⟩])

/-- The next entry, with the rest of the scan. Directories are read until one has an entry. -/
def pull (reader : Reader) (failures : List UnreadableDir) :
    List (Path × Location) → List Entry → Run (Option Entry × Scan)
  | pending, entry :: buffer => return (some entry, ⟨reader, pending, buffer, failures⟩)
  | [], [] => return (none, ⟨reader, [], [], failures⟩)
  | (dir, location) :: pending, [] => do
    let (entries, failed) ← visit reader dir location
    pull reader (failures ++ failed) pending entries

def next (scan : Scan) : Run (Option Entry × Scan) :=
  pull scan.reader scan.failures scan.pending scan.buffer

/-- Hands all further entries to `f`, each directory's before the next directory is read. -/
def foldPending (reader : Reader) (f : β → Entry → Run β) (b : β) (failures : List UnreadableDir) :
    List (Path × Location) → Run (β × Scan)
  | [] => return (b, ⟨reader, [], [], failures⟩)
  | (dir, location) :: pending => do
    let (entries, failed) ← visit reader dir location
    let b ← entries.foldlM f b
    foldPending reader f b (failures ++ failed) pending

/-- Pulls every entry, handing each to `f` before the next one is pulled. -/
def fold (f : β → Entry → Run β) (b : β) (scan : Scan) : Run (β × Scan) := do
  let b ← scan.buffer.foldlM f b
  foldPending scan.reader f b scan.failures scan.pending

end Scan

end TrackFinder
