import TrackFinder.Proofs.Scan

/-! What is logged on the way, and in which order. -/
namespace TrackFinder

variable {α β : Type} {message : String} {events : List Event}

namespace Run

@[simp] theorem events_pure (a : α) : (pure a : Run α).events = [] := rfl

@[simp] theorem events_map (f : α → β) (run : Run α) : (f <$> run).events = run.events := by
  change (run >>= fun a => pure (f a)).events = run.events
  rw [events_bind, events_pure, List.append_nil]

end Run

namespace Event

end Event

open Event

namespace Scan

variable {reader : Reader} {f : β → Entry → Run β} {told : Entry → List Event}

end Scan

end TrackFinder
