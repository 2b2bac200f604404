import Mathlib.Data.List.Forall2
import TrackFinder.Proofs.Companion.Verdict

/-! What becomes of each of the companions that are settled one after the other: what the list given
says of it, and nothing that is done on the way. -/
namespace TrackFinder.Companion

variable {c i : Companion} {all : List Companion} {x : String} {fate : Option Rejection}

example : ((settle [⟨"/m.2/A.SUB", .subtitle, .matchAll, none⟩,
    ⟨"/m.2/a.Idx", .subtitle, .matchLeft, none⟩,
    ⟨"/m.2/a.idx", .subtitle, .matchAll, none⟩]).value.map rejection) =
      [some (.pairedWithIndex "/m.2/a.Idx"), none, none] := by
  decide +kernel

end TrackFinder.Companion
