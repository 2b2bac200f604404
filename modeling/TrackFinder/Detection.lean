import TrackFinder.Companion.Conflict
import TrackFinder.Companion.Gather

/-! The companions of one media file. -/

namespace TrackFinder

/-- Companions in their final order, with the rejected ones apart. -/
def Companion.conclude (collator : Collator) (companions : List Companion) :
    Run (List Companion × List Companion) := do
  let (accepted, rejected) := Companion.split (← Companion.settle companions)
  return (Order.sort (Order.companions collator) accepted,
    Order.sort (Order.companions collator) rejected)

/-- What a search found. -/
structure Detection where
  media : Path
  candidates : List Companion
  rejected : List Companion
  unreadable : List UnreadableDir
deriving DecidableEq

namespace Detection

def nothing (media : Path) : Detection := ⟨media, [], [], []⟩

def isEmpty (detection : Detection) : Bool := detection.candidates.isEmpty

end Detection

/-- Searches the directories of a request. A search that is turned off finds nothing, whatever the
media path; a media path without a name is an error. Neither reads a directory. -/
def Request.detect (realPath : Path → Option Path) (reader : Reader) (collator : Collator)
    (request : Request) : Run (Except Error Detection) := do
  if request.threshold = .disabled then
    Run.log (.disabled request.media)
    return .ok (.nothing request.media)
  else
    match request.directories realPath with
    | .error error => return .error error
    | .ok dirs =>
      match ← request.gather realPath (Scan.start reader dirs) with
      | .error error => return .error error
      | .ok (companions, scan) =>
        let (accepted, rejected) ← Companion.conclude collator companions
        Run.log (.finished request.media accepted.length rejected.length scan.failures.length)
        return .ok ⟨request.media, accepted, rejected, scan.failures⟩

end TrackFinder
