import TrackFinder.Error
import TrackFinder.Priority

/-! The least priority that a companion needs. -/

namespace TrackFinder

inductive Threshold where
  | disabled
  | atLeast (least : Priority)
deriving DecidableEq

namespace Threshold

def standard : Threshold := atLeast .matchLeft

/-- The threshold of a level from 0, which turns the search off, to 4. -/
def ofLevel (level : Int) : Except Error Threshold :=
  if level < 0 then .error (.invalidLevel level)
  else
    match Priority.ofRank? level.toNat with
    | some .none => .ok disabled
    | some p => .ok (atLeast p)
    | none => .error (.invalidLevel level)

/-- Whether a priority suffices. No relation never does. -/
def accepts : Threshold → Priority → Bool
  | disabled, _ => false
  | atLeast least, p => p ≠ .none && least.rank ≤ p.rank

end Threshold

end TrackFinder
