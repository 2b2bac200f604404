import TrackFinder.Proofs.Reads

/-! A scan that is pulled reads no directory before an entry of it is wanted: after any number of
pulls it has read the shortest beginning of its directories that holds as many entries. -/
namespace TrackFinder

variable {reader : Reader} {dirs read : List (Path × Location)} {n : Nat} {scan : Scan}

namespace Reader

@[simp] theorem contents_append (reader : Reader) (front back : List (Path × Location)) :
    reader.contents (front ++ back) = reader.contents front ++ reader.contents back :=
  List.flatMap_append

@[simp] theorem faults_append (reader : Reader) (front back : List (Path × Location)) :
    reader.faults (front ++ back) = reader.faults front ++ reader.faults back :=
  List.filterMap_append

theorem faults_cons (reader : Reader) (d : Path × Location) (dirs : List (Path × Location)) :
    reader.faults (d :: dirs) = (reader.fault? d.1 d.2).toList ++ reader.faults dirs := by
  cases h : reader.fault? d.1 d.2 <;> simp [faults, h]

end Reader

namespace Scan

/-- A fold over a scan pulls one entry after the other, and hands each on before the next pull. -/
theorem fold_eq_next {β : Type} (f : β → Entry → Run β) (b : β) (scan : Scan) :
    scan.fold f b = do
      match ← scan.next with
      | (some entry, scan) => fold f (← f b entry) scan
      | (none, scan) => return (b, scan) := by
  obtain ⟨reader, pending, buffer, failures⟩ := scan
  induction pending generalizing buffer failures with
  | nil =>
    cases buffer with
    | nil => simp [fold, next, pull, foldPending]
    | cons entry buffer => simp [fold, next, pull]
  | cons d pending ih =>
    cases buffer with
    | nil =>
      simp only [fold, next] at ih
      simp [fold, next, pull, foldPending, ih]
    | cons entry buffer => simp [fold, next, pull]

/-- What `n` pulls yield, the end included, and the scan as they leave it. -/
def pulls : Nat → Scan → Run (List (Option Entry) × Scan)
  | 0, scan => return ([], scan)
  | n + 1, scan => do
    let (yielded, scan) ← pulls n scan
    let (entry, scan) ← scan.next
    return (yielded ++ [entry], scan)

/-- A pull reads directories until it has an entry, and takes the first entry from what it then has
at hand. -/
theorem pull_eq (reader : Reader) (failures : List UnreadableDir)
    (pending : List (Path × Location)) (buffer : List Entry) :
    ∃ more rest, pending = more ++ rest ∧
      (pull reader failures pending buffer).reads = more ∧
      (pull reader failures pending buffer).value =
        ((buffer ++ reader.contents more).head?,
          ⟨reader, rest, (buffer ++ reader.contents more).tail,
            failures ++ reader.faults more⟩) ∧
      (∀ front d back, more = front ++ d :: back → buffer ++ reader.contents front = []) ∧
      (buffer ++ reader.contents more = [] → rest = []) := by
  induction pending generalizing failures buffer with
  | nil =>
    refine ⟨[], [], rfl, ?_, ?_, by simp, fun _ => rfl⟩ <;> cases buffer <;>
      simp [pull, Reader.contents, Reader.faults]
  | cons d pending ih =>
    cases buffer with
    | cons entry buffer =>
      refine ⟨[], d :: pending, rfl, ?_, ?_, by simp, by simp⟩ <;>
        simp [pull, Reader.contents, Reader.faults]
    | nil =>
      obtain ⟨dir, location⟩ := d
      obtain ⟨more, rest, hpending, hreads, hvalue, hneeded, hended⟩ :=
        ih (failures ++ (reader.fault? dir location).toList) (reader.found dir location)
      refine ⟨(dir, location) :: more, rest, by rw [hpending]; rfl, ?_, ?_, ?_, ?_⟩
      · rw [pull, Run.reads_bind, reads_visit, value_visit]
        exact congrArg _ hreads
      · rw [pull, Run.value_bind, value_visit, Reader.contents_cons, Reader.faults_cons,
          List.nil_append, ← List.append_assoc failures]
        exact hvalue
      · intro front d back hmore
        cases front with
        | nil => rfl
        | cons d' front =>
          rw [List.cons_append, List.cons.injEq] at hmore
          obtain ⟨rfl, hmore⟩ := hmore
          exact hneeded front d back hmore
      · exact hended

/-- `scan` goes through `dirs`, has read the directories `read`, and has been pulled `n` times. -/
structure Stands (reader : Reader) (dirs : List (Path × Location)) (n : Nat)
    (read : List (Path × Location)) (scan : Scan) : Prop where
  reader_eq : scan.reader = reader
  dirs_eq : dirs = read ++ scan.pending
  contents_eq : reader.contents read = (reader.contents dirs).take n ++ scan.buffer
  failures_eq : scan.failures = reader.faults read
  needed : ∀ front d back, read = front ++ d :: back → (reader.contents front).length < n
  ended : (reader.contents dirs).length < n → scan.pending = []

theorem stands_start (reader : Reader) (dirs : List (Path × Location)) :
    Stands reader dirs 0 [] (start reader dirs) where
  reader_eq := rfl
  dirs_eq := rfl
  contents_eq := rfl
  failures_eq := rfl
  needed := by simp
  ended := by simp

/-- A pull yields the entry whose turn it is. -/
theorem stands_next (h : Stands reader dirs n read scan) :
    scan.next.value.1 = (reader.contents dirs)[n]? ∧
      Stands reader dirs (n + 1) (read ++ scan.next.reads) scan.next.value.2 := by
  obtain ⟨more, rest, hpending, hreads, hvalue, hneeded, hended⟩ :=
    pull_eq scan.reader scan.failures scan.pending scan.buffer
  rw [next, hreads, hvalue, h.reader_eq]
  rw [h.reader_eq] at hneeded hended
  have hdirs : dirs = read ++ more ++ rest := by rw [h.dirs_eq, hpending, List.append_assoc]
  have hdrop : (reader.contents dirs).drop n =
      scan.buffer ++ reader.contents more ++ reader.contents rest := by
    have hall := congrArg reader.contents hdirs
    rw [Reader.contents_append, Reader.contents_append, h.contents_eq, List.append_assoc,
      List.append_assoc, ← List.append_assoc scan.buffer] at hall
    exact List.append_cancel_left ((List.take_append_drop n _).trans hall)
  have hhead : (scan.buffer ++ reader.contents more).head? = (reader.contents dirs)[n]? := by
    rw [← List.head?_drop, hdrop]
    cases hhand : scan.buffer ++ reader.contents more with
    | nil => rw [hended hhand]; rfl
    | cons entry hand => rfl
  have hfew : ∀ front d back, more = front ++ d :: back →
      (reader.contents (read ++ front)).length < n + 1 := by
    intro front d back hmore
    rw [Reader.contents_append, h.contents_eq, List.append_assoc, hneeded front d back hmore,
      List.append_nil]
    exact Nat.lt_succ_of_le (List.length_take_le n _)
  refine ⟨hhead, rfl, hdirs, ?_, ?_, ?_, ?_⟩
  · rw [Reader.contents_append, h.contents_eq, List.append_assoc, List.take_add_one, ← hhead,
      List.append_assoc]
    cases scan.buffer ++ reader.contents more <;> rfl
  · rw [h.failures_eq, Reader.faults_append]
  · intro front d back hfront
    rcases List.append_eq_append_iff.mp hfront with ⟨front', rfl, hmore⟩ | ⟨back', hread, hback⟩
    · exact hfew front' d back hmore
    · cases back' with
      | nil =>
        rw [List.append_nil] at hread
        simpa [hread] using hfew [] d back hback.symm
      | cons d' back' => exact Nat.lt_succ_of_lt (h.needed front d' back' hread)
  · intro hshort
    rw [List.getElem?_eq_none (Nat.le_of_lt_succ hshort)] at hhead
    exact hended (List.head?_eq_none_iff.mp hhead)

/-- Any number of pulls yields the entries in order, and the end once there are no more. -/
theorem stands_pulls (reader : Reader) (dirs : List (Path × Location)) (n : Nat) :
    (pulls n (start reader dirs)).value.1 =
        (List.range n).map (fun k => (reader.contents dirs)[k]?) ∧
      Stands reader dirs n (pulls n (start reader dirs)).reads
        (pulls n (start reader dirs)).value.2 := by
  induction n with
  | zero => exact ⟨rfl, stands_start reader dirs⟩
  | succ n ih =>
    obtain ⟨hyielded, hstands⟩ := ih
    obtain ⟨hentry, hnext⟩ := stands_next hstands
    simp only [pulls, Run.value_bind, Run.value_pure, Run.reads_bind, Run.reads_pure,
      List.append_nil]
    exact ⟨by rw [hyielded, hentry, List.range_succ, List.map_append]; rfl, hnext⟩

/-- `read` is the shortest beginning of `dirs` whose listings hold `n` entries. -/
structure IsShortest (reader : Reader) (dirs : List (Path × Location)) (n : Nat)
    (read : List (Path × Location)) : Prop where
  begins : read <+: dirs
  holds : n ≤ (reader.contents read).length
  shortest : ∀ front, front <+: dirs → n ≤ (reader.contents front).length → read <+: front

theorem Stands.isShortest (h : Stands reader dirs n read scan)
    (hn : n ≤ (reader.contents dirs).length) : IsShortest reader dirs n read where
  begins := ⟨scan.pending, h.dirs_eq.symm⟩
  holds := by
    rw [h.contents_eq, List.length_append, List.length_take_of_le hn]
    exact Nat.le_add_right n _
  shortest := by
    intro front hfront henough
    have hread : read <+: dirs := ⟨scan.pending, h.dirs_eq.symm⟩
    rcases List.prefix_or_prefix_of_prefix hread hfront with hfits | ⟨back, rfl⟩
    · exact hfits
    · cases back with
      | nil => exact ⟨[], by simp⟩
      | cons d back => exact absurd henough (Nat.not_le_of_lt (h.needed front d back rfl))

theorem Stands.read_eq (h : Stands reader dirs n read scan)
    (hn : (reader.contents dirs).length < n) : read = dirs := by
  rw [h.dirs_eq, h.ended hn, List.append_nil]

/-- The `n`th pull of a scan yields the `n`th of the entries that its directories list, or the end.
Before the first pull nothing is read. The pulls up to one that yields an entry have read, each
once, the directories of the shortest beginning that holds so many entries; those up to one that
yields the end have read all. The failures at hand are always those of the directories read. -/
theorem pulls_lazy (reader : Reader) (dirs : List (Path × Location)) (n : Nat) :
    let run := pulls n (start reader dirs)
    (n = 0 → run.reads = []) ∧
    run.value.1 = (List.range n).map (fun k => (reader.contents dirs)[k]?) ∧
    (n ≤ (reader.contents dirs).length → IsShortest reader dirs n run.reads) ∧
    ((reader.contents dirs).length < n → run.reads = dirs) ∧
    run.value.2.failures = reader.faults run.reads := by
  intro run
  obtain ⟨hyielded, hstands⟩ := stands_pulls reader dirs n
  refine ⟨?_, hyielded, hstands.isShortest, hstands.read_eq, hstands.failures_eq⟩
  rintro rfl
  rfl

/-- The media file's directory cannot be read, `Subs` is empty, `subs` has two files, and there is
no `Subtitles`. -/
theorem pulls_lazy_subs :
    let reader : Reader := .ofTable Reader.place
      [(Path.ofText "/m", .failed ⟨false, "permission denied", none⟩),
        (Path.ofText "/m/Subs", ⟨[], .ok []⟩),
        (Path.ofText "/m/subs", ⟨[], .ok [("a.srt", .file), ("b.srt", .file)]⟩)] false
    let dirs : List (Path × Location) := [(Path.ofText "/m", .primary),
      (Path.ofText "/m/Subs", .extra), (Path.ofText "/m/subs", .extra),
      (Path.ofText "/m/Subtitles", .extra)]
    (pulls 0 (start reader dirs)).reads = [] ∧
    IsShortest reader dirs 2 (pulls 2 (start reader dirs)).reads ∧
    (pulls 3 (start reader dirs)).reads = dirs ∧
    (pulls 3 (start reader dirs)).value.2.failures =
      reader.faults (pulls 3 (start reader dirs)).reads := by
  intro reader dirs
  have hlength : (reader.contents dirs).length = 2 := by decide +kernel
  obtain ⟨-, -, -, hend, hfailures⟩ := pulls_lazy reader dirs 3
  exact ⟨(pulls_lazy reader dirs 0).1 rfl,
    (pulls_lazy reader dirs 2).2.2.1 (Nat.le_of_eq hlength.symm),
    hend (hlength ▸ Nat.lt_succ_self 2), hfailures⟩

end Scan

end TrackFinder
