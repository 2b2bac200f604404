import TrackFinder.Event

/-! A value together with what was done on the way to it. -/

namespace TrackFinder

/-- What a computation does besides giving a value. -/
inductive Action where
  | read (dir : Path) (location : Location)
  | log (event : Event)
deriving DecidableEq

structure Run (α : Type) where
  value : α
  actions : List Action

namespace Run

variable {α β : Type}

instance : Monad Run where
  pure value := ⟨value, []⟩
  bind run next := ⟨(next run.value).value, run.actions ++ (next run.value).actions⟩

def read (dir : Path) (location : Location) : Run Unit := ⟨(), [.read dir location]⟩

def log (event : Event) : Run Unit := ⟨(), [.log event]⟩

def note (notes : List Note) : Run Unit := ⟨(), notes.map fun note => .log (.noted note)⟩

/-- The directories read, in order. -/
def reads (run : Run α) : List (Path × Location) :=
  run.actions.filterMap fun
    | .read dir location => some (dir, location)
    | .log _ => none

/-- The events logged, in order. -/
def events (run : Run α) : List Event :=
  run.actions.filterMap fun
    | .read .. => none
    | .log event => some event

@[simp] theorem value_pure (a : α) : (pure a : Run α).value = a := rfl

@[simp] theorem actions_pure (a : α) : (pure a : Run α).actions = [] := rfl

@[simp] theorem value_bind (run : Run α) (next : α → Run β) :
    (run >>= next).value = (next run.value).value := rfl

@[simp] theorem actions_bind (run : Run α) (next : α → Run β) :
    (run >>= next).actions = run.actions ++ (next run.value).actions := rfl

@[simp] theorem reads_bind (run : Run α) (next : α → Run β) :
    (run >>= next).reads = run.reads ++ (next run.value).reads := by
  simp [reads]

@[simp] theorem events_bind (run : Run α) (next : α → Run β) :
    (run >>= next).events = run.events ++ (next run.value).events := by
  simp [events]

end Run

end TrackFinder
