import TrackFinder.Proofs.Reader

/-! What a run of several steps and a scan of several directories come to. -/
namespace TrackFinder

variable {α β γ : Type} {observe : Action → Option γ}

namespace Run

instance : LawfulMonad Run := by
  apply LawfulMonad.mk' Run
  · intro α run
    exact congrArg (Run.mk run.value) (List.append_nil run.actions)
  · intro α β a next
    rfl
  · intro α β γ run next last
    simp [bind]

@[simp] theorem value_map (f : α → β) (run : Run α) : (f <$> run).value = f run.value := rfl

theorem value_foldlM (f : β → α → Run β) (b : β) (xs : List α) :
    (xs.foldlM f b).value = xs.foldl (fun b a => (f b a).value) b := by
  induction xs generalizing b with
  | nil => rfl
  | cons a xs ih => rw [List.foldlM_cons, value_bind, ih, List.foldl_cons]

theorem value_mapM (f : α → Run β) (xs : List α) :
    (xs.mapM f).value = xs.map fun a => (f a).value := by
  induction xs with
  | nil => rfl
  | cons a xs ih =>
    rw [List.mapM_cons, value_bind, value_bind, ih]
    rfl

/-- What is observed of a run, such as its readings or what it logs. -/
def seen (observe : Action → Option γ) (run : Run α) : List γ := run.actions.filterMap observe

theorem seen_bind (run : Run α) (next : α → Run β) :
    (run >>= next).seen observe = run.seen observe ++ (next run.value).seen observe :=
  List.filterMap_append

/-- Steps that are seen to do what their element says, whatever came before, do it element by
element. -/
theorem seen_foldlM {f : β → α → Run β} {told : α → List γ}
    (h : ∀ b a, (f b a).seen observe = told a) (b : β) (xs : List α) :
    (xs.foldlM f b).seen observe = xs.flatMap told := by
  induction xs generalizing b with
  | nil => rfl
  | cons a xs ih => rw [List.foldlM_cons, seen_bind, h, ih, List.flatMap_cons]

end Run

namespace Scan

variable {reader : Reader} {f : β → Entry → Run β} {told : Entry → List γ}

theorem value_visit (reader : Reader) (dir : Path) (location : Location) :
    (visit reader dir location).value =
      (reader.found dir location, (reader.fault? dir location).toList) := by
  simp only [visit, Run.value_bind, Reader.value_read, Reader.found, Reader.fault?]
  cases (reader.entries dir location).result with
  | ok entries => rfl
  | error failure =>
    by_cases h : (location = .extra && failure.missing) = true <;> simp [h]

theorem value_foldPending (b : β) (failures : List UnreadableDir)
    (dirs : List (Path × Location)) :
    (foldPending reader f b failures dirs).value =
      ((reader.contents dirs).foldl (fun b e => (f b e).value) b,
        ⟨reader, [], [], failures ++ reader.faults dirs⟩) := by
  induction dirs generalizing b failures with
  | nil => simp [foldPending, Reader.contents, Reader.faults]
  | cons dir dirs ih =>
    obtain ⟨dir, location⟩ := dir
    simp only [foldPending, Run.value_bind, value_visit, Run.value_foldlM, ih]
    simp only [Reader.contents, Reader.faults, List.flatMap_cons, List.foldl_append]
    cases hf : reader.fault? dir location <;> simp [hf]

/-- The entries that a scan has not handed out yet: those at hand and those of the directories to
come. -/
def entries (scan : Scan) : List Entry := scan.buffer ++ scan.reader.contents scan.pending

@[simp] theorem entries_ofEntries (es : List Entry) : (ofEntries es).entries = es :=
  List.append_nil es

/-- A fold over a scan is a fold over its entries. -/
theorem value_fold (b : β) (scan : Scan) :
    (scan.fold f b).value =
      (scan.entries.foldl (fun b e => (f b e).value) b,
        ⟨scan.reader, [], [], scan.failures ++ scan.reader.faults scan.pending⟩) := by
  rw [fold, Run.value_bind, Run.value_foldlM, value_foldPending, entries, List.foldl_append]

/-- Of each directory to come it is seen how it is read, and then what is done with its entries. -/
theorem seen_foldPending (h : ∀ b e, (f b e).seen observe = told e) (b : β)
    (failures : List UnreadableDir) (dirs : List (Path × Location)) :
    (foldPending reader f b failures dirs).seen observe =
      dirs.flatMap fun d => (visit reader d.1 d.2).seen observe ++
        (reader.found d.1 d.2).flatMap told := by
  induction dirs generalizing b failures with
  | nil => rfl
  | cons d dirs ih =>
    obtain ⟨dir, location⟩ := d
    simp only [foldPending, Run.seen_bind, value_visit, Run.seen_foldlM h, ih, List.flatMap_cons,
      List.append_assoc]

theorem seen_fold (h : ∀ b e, (f b e).seen observe = told e) (b : β) (scan : Scan) :
    (scan.fold f b).seen observe =
      scan.buffer.flatMap told ++
        scan.pending.flatMap fun d => (visit scan.reader d.1 d.2).seen observe ++
          (scan.reader.found d.1 d.2).flatMap told := by
  rw [fold, Run.seen_bind, Run.seen_foldlM h, seen_foldPending h]

end Scan

end TrackFinder
