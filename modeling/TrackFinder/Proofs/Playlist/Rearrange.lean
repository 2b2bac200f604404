import TrackFinder.Proofs.Detection.Rearrange
import TrackFinder.Proofs.Playlist.Arrangement

/-! An ordered playlist does not depend on the order in which the entries of its directory were
read. -/
namespace TrackFinder

variable {realPath : Path → Option Path} {collator : Collator} {options : ListingOptions}
  {dir d : Path} {entries entries' beside beside' : List Entry} {e f : Entry} {i : Item}
  {a b label : Label}

/-- What an item reports, but for the reasons why companions are rejected. -/
def Item.findings (item : Item) :
    Label × List Companion × List (String × TrackKind × Priority) :=
  (item.label, item.companions, item.rejected.map fun c => (c.path, c.kind, c.priority))

/-- An entry of `dir` that is shown so. -/
def Label.entry (dir : Path) (label : Label) : Entry :=
  ⟨label.1, dir, .primary, if label.2.2 then .directory else .file⟩

theorem Label.label_entry (h : e.dir = d) : (e.label.entry d).label = e.label := by
  cases hkind : e.isDirectory <;>
    simp_all [Label.entry, Entry.label, Entry.path, Entry.isDirectory]

namespace Playlist

/-- The item of an entry depends on what a listing shows of it, and on the tracks. -/
theorem finished_congr (h : e.label = f.label) :
    finished realPath options collator beside e = finished realPath options collator beside f := by
  simp only [Entry.label, Prod.mk.injEq] at h
  obtain ⟨hname, hpath, hkind⟩ := h
  unfold finished attached
  rw [hname, hpath, hkind]

theorem findings_perm [Std.TransCmp collator] [Std.LawfulEqCmp collator]
    (h : beside.Perm beside') (e : Entry) :
    (finished realPath options collator beside e).findings =
      (finished realPath options collator beside' e).findings := by
  rcases attached_eq realPath options e with hnone | ⟨media, hsome⟩
  · rw [finished, finished, hnone, hnone]
  · have hall := h.filterMap ((request options e.path).companion? realPath media)
    have hkept := @Companion.kept_perm collator _ _ _ _ hall Request.eq_of_path_of_priority
    have hdropped := @Companion.dropped_perm collator _ _ _ _ hall
      Request.eq_of_path_of_priority fun c hc => Request.rejection_of_mem hc
    have hfields := congrArg (List.map fun c : Companion => (c.path, c.kind, c.priority)) hdropped
    rw [List.map_map, List.map_map] at hfields
    rw [finished, finished, hsome, hsome]
    exact Prod.ext rfl (Prod.ext hkept hfields)

theorem items_findings (hd : ∀ e ∈ entries, e.dir = d) :
    (ofEntries realPath collator options dir entries).value.items.map Item.findings =
      ((ofEntries realPath collator options dir entries).value.items.map Item.label).map
        fun label => (finished realPath options collator (tracks options entries)
          (label.entry d)).findings := by
  rw [List.map_map]
  apply List.map_congr_left
  intro i hi
  obtain ⟨e, he, rfl⟩ := mem_items.mp hi
  have hlabel : e.label = (e.label.entry d).label :=
    (Label.label_entry (hd e (List.mem_filter.mp he).1)).symm
  exact congrArg Item.findings (finished_congr hlabel)

/-- Entries of one directory that tie are shown alike. -/
theorem items_label_perm [Std.TransCmp collator] [Std.LawfulEqCmp collator]
    (hread : options.alreadySorted = false) (hsort : options.sort ≠ .none)
    (hp : entries.Perm entries') (hd : ∀ e ∈ entries, e.dir = d) :
    (ofEntries realPath collator options dir entries).value.items.map Item.label =
      (ofEntries realPath collator options dir entries').value.items.map Item.label := by
  have hon : ¬ (options.alreadySorted || options.sort = .none) = true := by simp [hread, hsort]
  rw [map_label_items, map_label_items, if_neg hon, if_neg hon]
  apply Order.sort_eq_of_perm ((hp.filter _).map _)
  intro a ha b hb htie
  obtain ⟨e, he, rfl⟩ := List.mem_map.mp ha
  obtain ⟨f, hf, rfl⟩ := List.mem_map.mp hb
  have hde := hd e (List.mem_filter.mp he).1
  have hdf := hd f (List.mem_filter.mp hf).1
  have hkey := (Order.entries_eq_iff hsort).mp htie
  simp only [Entry.label, Prod.mk.injEq] at hkey
  simp only [Entry.label, Entry.path, hde, hdf, hkey]

/-- The entries of one directory give the same items in whatever order they are read, if the items
are ordered and names by a linear order. Only the index that a rejected subtitle stream is said to
give way to may be another one. -/
theorem ofEntries_rearranged [Std.TransCmp collator] [Std.LawfulEqCmp collator]
    (realPath : Path → Option Path) (dir : Path) (hread : options.alreadySorted = false)
    (hsort : options.sort ≠ .none) (hp : entries.Perm entries') (hd : ∀ e ∈ entries, e.dir = d) :
    (ofEntries realPath collator options dir entries).value.items.map Item.findings =
      (ofEntries realPath collator options dir entries').value.items.map Item.findings := by
  have hd' : ∀ e ∈ entries', e.dir = d := fun e he => hd e (hp.mem_iff.mpr he)
  have htracks : (tracks options entries).Perm (tracks options entries') := hp.filter _
  rw [items_findings hd, items_findings hd', items_label_perm hread hsort hp hd]
  exact List.map_congr_left fun label _ => findings_perm htracks (label.entry d)

theorem ofEntries_rearranged_movie :
    let entries := ["Movie.mkv", "Movie.sub", "Movie.idx", "MOVIE.idx"].map fun name =>
      (⟨name, Path.ofText "/m", .primary, .file⟩ : Entry)
    let entries' := ["MOVIE.idx", "Movie.sub", "Movie.mkv", "Movie.idx"].map fun name =>
      (⟨name, Path.ofText "/m", .primary, .file⟩ : Entry)
    let options : ListingOptions := ⟨.standard, false, "", .version, false⟩
    (ofEntries (fun _ => none) Order.ascii options (Path.ofText "/m") entries).value.items.map
        Item.findings =
      (ofEntries (fun _ => none) Order.ascii options (Path.ofText "/m") entries').value.items.map
        Item.findings := by
  intro entries entries' options
  have hd : ∀ e ∈ entries, e.dir = Path.ofText "/m" := by decide
  have hp : entries.Perm entries' := List.Perm.map _ (by decide)
  exact ofEntries_rearranged (fun _ => none) (Path.ofText "/m") rfl (by decide) hp hd

end Playlist

end TrackFinder
