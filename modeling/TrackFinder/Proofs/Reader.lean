import TrackFinder.Scan

/-! What readers find, what some of them promise, and readers that answer alike. -/
namespace TrackFinder.Reader

variable {reader reader' : Reader} {dir d : Path} {location : Location}
  {dirs dirs' : List (Path × Location)} {names names' : List FileName}

theorem value_read (reader : Reader) (dir : Path) (location : Location) :
    (reader.read dir location).value = (reader.entries dir location).result := rfl

/-- The entries of a directory; one that cannot be read has none. -/
def found (reader : Reader) (dir : Path) (location : Location) : List Entry :=
  match (reader.entries dir location).result with
  | .ok entries => entries
  | .error _ => []

/-- The entries of several directories, in order. -/
def contents (reader : Reader) (dirs : List (Path × Location)) : List Entry :=
  dirs.flatMap fun (dir, location) => reader.found dir location

theorem contents_cons (reader : Reader) (d : Path × Location) (dirs : List (Path × Location)) :
    reader.contents (d :: dirs) = reader.found d.1 d.2 ++ reader.contents dirs := rfl

/-- The fault that the reading of a directory is reported with, if it is. -/
def fault? (reader : Reader) (dir : Path) (location : Location) : Option UnreadableDir :=
  match (reader.entries dir location).result with
  | .ok _ => none
  | .error failure =>
    if location = .extra && failure.missing then none
    else some ⟨dir, (Error.unreadable dir failure).message⟩

/-- The faults of several directories, in order. -/
def faults (reader : Reader) (dirs : List (Path × Location)) : List UnreadableDir :=
  dirs.filterMap fun (dir, location) => reader.fault? dir location

/-- Whether no entry that is read has a slash in its name. -/
def HasStepNames (reader : Reader) : Prop :=
  ∀ dir location, ∀ e ∈ reader.found dir location, '/' ∉ e.name.toList

/-- Whether what is read lies where it was asked for, under names without slashes. -/
def IsFaithful (reader : Reader) : Prop :=
  ∀ dir location, ∀ e ∈ reader.found dir location,
    e.dir = dir ∧ e.location = location ∧ '/' ∉ e.name.toList

theorem IsFaithful.hasStepNames (h : reader.IsFaithful) : reader.HasStepNames := by
  intro dir location e he
  exact (h dir location e he).2.2

theorem HasStepNames.contents (h : reader.HasStepNames) (dirs : List (Path × Location)) :
    ∀ e ∈ reader.contents dirs, '/' ∉ e.name.toList := by
  intro e he
  obtain ⟨⟨dir, location⟩, -, he⟩ := List.mem_flatMap.mp he
  exact h dir location e he

/-- Whether what is read lies where it was asked for, each file under a name of its own. -/
structure ListsOnce (reader : Reader) : Prop where
  inDir : ∀ dir location, ∀ e ∈ reader.found dir location, e.dir.same dir
  hasStepNames : reader.HasStepNames
  nodup : ∀ dir location, ((reader.found dir location).map Entry.name).Nodup

/-- Whether two readers give the same answers, but for the order of the entries. -/
def Rearranges (reader reader' : Reader) : Prop :=
  ∀ dir location,
    match (reader.entries dir location).result, (reader'.entries dir location).result with
    | .ok entries, .ok entries' => entries.Perm entries'
    | .error failure, .error failure' => failure = failure'
    | _, _ => False

theorem Rearranges.found (h : reader.Rearranges reader') (dir : Path) (location : Location) :
    (reader.found dir location).Perm (reader'.found dir location) := by
  have hd := h dir location
  unfold Reader.found
  split at hd
  · rename_i he he'
    rw [he, he']
    exact hd
  · rename_i he he'
    rw [he, he']
  · exact hd.elim

theorem Rearranges.contents (h : reader.Rearranges reader') (hd : dirs.Perm dirs') :
    (reader.contents dirs).Perm (reader'.contents dirs') := by
  have heach : (reader.contents dirs).Perm (reader'.contents dirs) := by
    clear hd
    induction dirs with
    | nil => exact List.Perm.refl _
    | cons d dirs ih =>
      simp only [Reader.contents, List.flatMap_cons]
      exact (h.found d.1 d.2).append ih
  exact heach.trans (hd.flatMap_right _)

/-- The reader that names `entry` first in a directory that holds it. -/
def leading (reader : Reader) (d : Path × Location) (entry : Entry) : Reader where
  entries dir location :=
    let listing := reader.entries dir location
    if (dir, location) = d ∧ entry ∈ reader.found dir location then
      ⟨listing.notes, listing.result.map fun entries => entry :: entries.erase entry⟩
    else listing
  sorted := reader.sorted

theorem rearranges_leading (reader : Reader) (d : Path × Location) (entry : Entry) :
    reader.Rearranges (reader.leading d entry) := by
  intro dir location
  by_cases h : (dir, location) = d ∧ entry ∈ reader.found dir location
  · have hmem := h.2
    unfold found at hmem
    cases hr : (reader.entries dir location).result with
    | error failure => simp [hr] at hmem
    | ok entries =>
      rw [hr] at hmem
      simp only [leading, if_pos h, hr, Except.map]
      exact List.perm_cons_erase hmem
  · simp only [leading, if_neg h]
    cases (reader.entries dir location).result with
    | error failure => rfl
    | ok entries => exact List.Perm.refl entries

theorem found_leading {d : Path × Location} {entry : Entry}
    (h : entry ∈ reader.found d.1 d.2) :
    ∃ rest, (reader.leading d entry).found d.1 d.2 = entry :: rest := by
  have hmem := h
  unfold found at hmem
  cases hr : (reader.entries d.1 d.2).result with
  | error failure => simp [hr] at hmem
  | ok entries =>
    refine ⟨entries.erase entry, ?_⟩
    rw [found, leading]
    simp [h, hr, Except.map]

/-- A reader that knows one directory, of files only. -/
def ofFiles (dir : Path) (names : List FileName) : Reader :=
  .ofTable place [(dir, ⟨[], .ok (names.map fun name => (name, .file))⟩)] false

theorem result_ofFiles (dir d : Path) (names : List FileName) (location : Location) :
    ((ofFiles dir names).entries d location).result =
      if dir.same d then .ok (names.map fun name => ⟨name, d, location, .file⟩)
      else .error noSuchDirectory := by
  unfold ofFiles ofTable
  by_cases h : dir.same d
  · simp only [h, List.find?_cons_of_pos, if_true, Listing.map, Except.map, List.map_map]
    rfl
  · simp [h, Listing.failed]

theorem isFaithful_ofFiles (h : ∀ name ∈ names, '/' ∉ name.toList) :
    (ofFiles dir names).IsFaithful := by
  intro d location e he
  rw [found, result_ofFiles] at he
  by_cases hd : dir.same d
  · rw [if_pos hd] at he
    obtain ⟨name, hname, rfl⟩ := List.mem_map.mp he
    exact ⟨rfl, rfl, h name hname⟩
  · rw [if_neg hd] at he
    cases he

theorem listsOnce_ofFiles (h : ∀ name ∈ names, '/' ∉ name.toList) (hnames : names.Nodup) :
    (ofFiles dir names).ListsOnce where
  inDir d location e he := by
    rw [((isFaithful_ofFiles h) d location e he).1]
    exact beq_self_eq_true _
  hasStepNames := (isFaithful_ofFiles h).hasStepNames
  nodup d location := by
    rw [found, result_ofFiles]
    by_cases hd : dir.same d
    · rw [if_pos hd]
      simpa [Function.comp_def] using hnames
    · rw [if_neg hd]
      exact List.nodup_nil

theorem rearranges_ofFiles (h : names.Perm names') (dir : Path) :
    (ofFiles dir names).Rearranges (ofFiles dir names') := by
  intro d location
  rw [result_ofFiles, result_ofFiles]
  by_cases hd : dir.same d
  · simp only [if_pos hd]
    exact h.map _
  · simp only [if_neg hd]

end TrackFinder.Reader
