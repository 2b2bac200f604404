import TrackFinder.Proofs.Scan

/-! Which directories are read on the way, and in which order. -/
namespace TrackFinder

variable {α β : Type}

namespace Run

@[simp] theorem reads_pure (a : α) : (pure a : Run α).reads = [] := rfl

@[simp] theorem reads_read (dir : Path) (location : Location) :
    (read dir location).reads = [(dir, location)] := rfl

@[simp] theorem reads_log (event : Event) : (log event).reads = [] := rfl

@[simp] theorem reads_note (notes : List Note) : (note notes).reads = [] := by
  simp [note, reads]

@[simp] theorem reads_map (f : α → β) (run : Run α) : (f <$> run).reads = run.reads := by
  change (run >>= fun a => pure (f a)).reads = run.reads
  rw [reads_bind, reads_pure, List.append_nil]

end Run

theorem Reader.reads_read (reader : Reader) (dir : Path) (location : Location) :
    (reader.read dir location).reads = [(dir, location)] := by
  simp [Reader.read]

namespace Scan

variable {reader : Reader} {f : β → Entry → Run β}

theorem reads_visit (reader : Reader) (dir : Path) (location : Location) :
    (visit reader dir location).reads = [(dir, location)] := by
  simp only [visit, Run.reads_bind, Run.reads_log, Reader.reads_read, List.nil_append]
  cases (reader.read dir location).value with
  | ok entries => rfl
  | error failure =>
    by_cases h : (location = .extra && failure.missing) = true <;> simp [h]

/-- The directories to come are read in turn, whatever they hold, as long as the entries handed on
cause no reading. -/
theorem reads_fold (h : ∀ b e, (f b e).reads = []) (b : β) (scan : Scan) :
    (scan.fold f b).reads = scan.pending := by
  have hnone : ∀ entries : List Entry,
      (entries.flatMap fun _ => ([] : List (Path × Location))) = [] :=
    fun _ => List.flatMap_eq_nil_iff.mpr fun _ _ => rfl
  have hseen : (scan.fold f b).reads = scan.buffer.flatMap (fun _ => []) ++
      scan.pending.flatMap fun d => (visit scan.reader d.1 d.2).reads ++
        (scan.reader.found d.1 d.2).flatMap fun _ => [] := seen_fold h b scan
  rw [hseen, hnone, List.nil_append]
  simp only [hnone, reads_visit, List.append_nil, List.flatMap_singleton']

end Scan

end TrackFinder
