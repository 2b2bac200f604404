import TrackFinder.Entry
import TrackFinder.Run

/-! Where directory listings come from. -/

namespace TrackFinder

/-- What the reading of a directory gives: its entries or the reason why there are none, and notes
on entries passed over. -/
structure Listing (α : Type) where
  notes : List Note
  result : Except ReadFailure (List α)

namespace Listing

variable {α β : Type}

def failed (failure : ReadFailure) : Listing α := ⟨[], .error failure⟩

def map (f : α → β) (listing : Listing α) : Listing β :=
  ⟨listing.notes, listing.result.map (List.map f)⟩

/-- The listing of entries each of which may have come to no more than a note. -/
def ofEntries (entries : List (Except Note α)) : Listing α where
  notes := entries.filterMap fun
    | .error note => some note
    | .ok _ => none
  result := .ok (entries.filterMap Except.toOption)

end Listing

/-- Names with the types of what bears them. -/
abbrev Contents := Listing (FileName × FileType)

/-- Gives the entries of a directory, each tagged with the location asked for. `sorted` promises
that they come in display order. -/
structure Reader where
  entries : Path → Location → Listing Entry
  sorted : Bool

namespace Reader

/-- Reads a directory. -/
def read (reader : Reader) (dir : Path) (location : Location) :
    Run (Except ReadFailure (List Entry)) := do
  Run.read dir location
  let listing := reader.entries dir location
  Run.note listing.notes
  return listing.result

/-- The entry of `dir` with a name and a type. -/
def place (dir : Path) (location : Location) : FileName × FileType → Entry
  | (name, type) => ⟨name, dir, location, type⟩

def noSuchDirectory : ReadFailure := ⟨true, "no such directory", none⟩

/-- Reads from a table of directories; the first one that is the same path answers. What it holds
stands for entries of the directory and at the location that are asked for, as `place` says. -/
def ofTable {α : Type} (place : Path → Location → α → Entry) (table : List (Path × Listing α))
    (sorted : Bool) : Reader where
  entries dir location :=
    match table.find? fun (known, _) => known.same dir with
    | some (_, contents) => contents.map (place dir location)
    | none => .failed noSuchDirectory
  sorted := sorted

end Reader

end TrackFinder
