import TrackFinder.Companion
import TrackFinder.Error
import TrackFinder.Order.Version
import TrackFinder.Text

/-! The orders of listings and of companions. -/

namespace TrackFinder

/-- How a listing is ordered: as it was read, with numbers by value, or by a collator. -/
inductive SortMode where
  | none
  | version
  | collate
deriving DecidableEq

namespace SortMode

def all : List SortMode := [none, version, collate]

def name : SortMode → String
  | none => "none"
  | version => "version"
  | collate => "collate"

/-- The mode that a text names, in any case and with blanks around it. -/
def ofText (text : String) : Except Error SortMode :=
  let given := Ascii.fold (Text.trim text.toList)
  match all.find? fun mode => mode.name.toList == given with
  | some mode => .ok mode
  | .none => .error (.invalidSort text)

/-- The mode that a setting names; a setting that names none collates. -/
def ofSetting (text : String) : SortMode :=
  match ofText text with
  | .ok mode => mode
  | .error _ => collate

end SortMode

namespace Order

/-- Entries of a listing, given by name and whether they are directories: directories first. -/
def entries (mode : SortMode) (collator : Collator) (a b : FileName × Bool) : Ordering :=
  (compare b.2.toNat a.2.toNat).then <|
    match mode with
    | .none => .eq
    | .version => version a.1 b.1
    | .collate => collator a.1 b.1

/-- Companions: the highest priority first, then by path. -/
def companions (collator : Collator) (a b : Companion) : Ordering :=
  (b.priority.compare a.priority).then (collator a.path b.path)

end Order

end TrackFinder
