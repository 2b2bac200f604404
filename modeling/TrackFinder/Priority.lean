import TrackFinder.Text

/-! How strongly a file's name says that it belongs to a media file. -/

namespace TrackFinder

/-- From no relation to the same name. In between, the media file's name is not found but the file
lies beside it, is found with nothing after it, or is found with words after it. -/
inductive Priority where
  | none
  | matchNone
  | matchRight
  | matchLeft
  | matchAll
deriving DecidableEq

/-- Where an entry lies: in the media file's own directory or in a further one. -/
inductive Location where
  | primary
  | extra
deriving DecidableEq

namespace Location

def all : List Location := [primary, extra]

def name : Location → String
  | primary => "primary"
  | extra => "extra"

end Location

namespace Priority

def all : List Priority := [none, matchNone, matchRight, matchLeft, matchAll]

def name : Priority → String
  | none => "none"
  | matchNone => "match_none"
  | matchRight => "match_right"
  | matchLeft => "match_left"
  | matchAll => "match_all"

def rank : Priority → Nat
  | none => 0
  | matchNone => 1
  | matchRight => 2
  | matchLeft => 3
  | matchAll => 4

def ofRank? : Nat → Option Priority
  | 0 => some none
  | 1 => some matchNone
  | 2 => some matchRight
  | 3 => some matchLeft
  | 4 => some matchAll
  | _ => .none

def compare (p q : Priority) : Ordering := Ord.compare p.rank q.rank

/-- The priority of a simplified name beside the simplified name of the media file. The first place
where the media name occurs decides; an empty one occurs nowhere. -/
def ofOverlap (name media : String) : Priority :=
  if name = media then matchAll
  else if media.toList = [] then none
  else
    match Text.afterFirst media.toList name.toList with
    | some rest => if Ascii.hasAlphanumeric rest then matchLeft else matchRight
    | .none => none

/-- An unrelated file still counts a little where it lies beside the media file. -/
def within (location : Location) : Priority → Priority
  | none =>
    match location with
    | .primary => matchNone
    | .extra => none
  | p => p

/-- The priority of an entry at `location`. -/
def ofEntry (name media : String) (location : Location) : Priority :=
  (ofOverlap name media).within location

end Priority

end TrackFinder
