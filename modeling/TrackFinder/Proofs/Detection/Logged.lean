import Mathlib.Data.List.Basic
import TrackFinder.Proofs.Detection.Exact
import TrackFinder.Proofs.Events

/-! What a search logs agrees with what it comes to. -/
namespace TrackFinder

variable {realPath : Path → Option Path} {reader : Reader} {collator : Collator}
  {request : Request} {dir : Path} {media : FileName} {detection : Detection} {message : String}

open Event

namespace Request

/-- What is logged of an entry. -/
def told (realPath : Path → Option Path) (request : Request) (media : FileName) (entry : Entry) :
    List Event :=
  match request.judge media.key entry with
  | none => []
  | some (_, priority) =>
    if entry.name = media && entry.path.sameFile realPath request.media then []
    else
      match entry.path.text? with
      | none => [.pathNotText entry.path]
      | some path => [.detected path priority]

end Request

namespace Companion

variable {cs before rest : List Companion} {c : Companion}

end Companion

namespace Request

end Request

end TrackFinder
