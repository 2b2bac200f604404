import TrackFinder.Run

/-! Companions that speak against each other: a subtitle stream beside its index, and a karaoke
track under another name than the media file's. -/

namespace TrackFinder.Companion

/-- Whether two companions have the same path up to the last dot, in any case. -/
def sameStem (a b : Companion) : Bool :=
  match a.stem?, b.stem? with
  | some a, some b => Ascii.same a.toList b.toList
  | _, _ => false

/-- The first of `others` that is the index of a subtitle stream. -/
def index? (others : List Companion) (c : Companion) : Option Companion :=
  others.find? fun other => other.hasExtension "idx" && other.sameStem c

/-- Why a companion is dropped in the company of `others`. -/
def objection? (others : List Companion) (c : Companion) : Option Rejection :=
  if c.hasExtension "sub" then (index? others c).map fun index => .pairedWithIndex index.path
  else if c.hasExtension "cdg" && c.priority.rank < Priority.matchAll.rank then
    some .weakKaraokeMatch
  else none

/-- Rejects a companion that is objected to. One that is rejected already is left alone. -/
def examine (others : List Companion) (c : Companion) : Run Companion := do
  if c.isRejected then return c
  else
    match objection? others c with
    | none => return c
    | some reason =>
      Run.log (.rejected c.path reason)
      return c.reject reason

/-- Examines one companion after the other, in the company of those examined and those to come. -/
def settleFrom (examined : List Companion) : List Companion → Run (List Companion)
  | [] => return examined
  | c :: rest => do
    let c ← examine (examined ++ rest) c
    settleFrom (examined ++ [c]) rest

/-- The same companions with the redundant and doubtful ones rejected. -/
def settle (companions : List Companion) : Run (List Companion) := settleFrom [] companions

end TrackFinder.Companion
