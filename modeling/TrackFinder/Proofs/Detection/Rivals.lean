import Mathlib.Data.List.Find
import TrackFinder.Proofs.Detection.Rearrange

/-! Which index a rejected subtitle stream is said to give way to: the first that is read. So the
reasons that a search gives depend on the order of reading just where a directory holds several
indexes for one stream. -/
namespace TrackFinder

variable {realPath : Path → Option Path} {reader reader' : Reader} {collator : Collator}
  {request : Request} {dir : Path} {media : FileName} {entry : Entry}
  {dirs before after : List (Path × Location)} {d : Path × Location}

namespace Companion

variable {all all' : List Companion} {c i : Companion} {reason : Rejection}

theorem mem_dropped_of_objection (hc : c ∈ all) (hnew : c.rejection = none)
    (h : objection? all c = some reason) :
    { c with rejection := some reason } ∈ dropped collator all := by
  have hverdict : verdict all c = { c with rejection := some reason } := by
    rw [verdict_of_new hnew, h]
  exact mem_dropped.mpr ⟨List.mem_map.mpr ⟨c, hc, hverdict⟩, rfl⟩

/-- What is dropped is dropped for what is objected to it. -/
theorem rejection_of_mem_dropped (hnew : ∀ c ∈ all, c.rejection = none)
    (hc : c ∈ dropped collator all) : c.rejection = objection? all c := by
  obtain ⟨b, hb, rfl⟩ := List.mem_map.mp (mem_dropped.mp hc).1
  rw [verdict_of_new (hnew b hb)]
  rfl

theorem dropped_eq_of_perm [Std.TransCmp collator] [Std.LawfulEqCmp collator]
    (hp : all.Perm all') (hnew : ∀ c ∈ all, c.rejection = none)
    (htie : ∀ a ∈ all, ∀ b ∈ all, a.path = b.path → a.priority = b.priority → a = b)
    (h : ∀ c ∈ all, objection? all c = objection? all' c) :
    dropped collator all = dropped collator all' := by
  have hsame : ∀ c ∈ all, verdict all c = verdict all' c := by
    intro c hc
    rw [verdict_of_new (hnew c hc), verdict_of_new (hnew c hc), h c hc]
  have hverdicts : (all.map (verdict all)).Perm (all'.map (verdict all')) := by
    rw [List.map_congr_left hsame]
    exact hp.map _
  apply Order.sort_eq_of_perm (hverdicts.filter isRejected)
  intro a ha b hb hab
  obtain ⟨x, hx, rfl⟩ := List.mem_map.mp (List.mem_filter.mp ha).1
  obtain ⟨y, hy, rfl⟩ := List.mem_map.mp (List.mem_filter.mp hb).1
  obtain ⟨hpriority, hpath⟩ := Order.companions_tie.mp hab
  rw [verdict_of_new (hnew x hx), verdict_of_new (hnew y hy)] at hpath hpriority
  rw [htie x hx y hy hpath hpriority]

end Companion

namespace Request

/-- The paths of the companions that directories hold, in the order scanned. -/
def pathsIn (realPath : Path → Option Path) (reader : Reader) (request : Request)
    (media : FileName) (dirs : List (Path × Location)) : List String :=
  ((reader.contents dirs).filterMap (request.companion? realPath media)).map Companion.path

theorem pathsIn_append (dirs dirs' : List (Path × Location)) :
    request.pathsIn realPath reader media (dirs ++ dirs') =
      request.pathsIn realPath reader media dirs ++
        request.pathsIn realPath reader media dirs' := by
  simp [pathsIn, Reader.contents]

theorem pathsIn_perm (hr : reader.Rearranges reader') (dirs : List (Path × Location)) :
    (request.pathsIn realPath reader media dirs).Perm
      (request.pathsIn realPath reader' media dirs) :=
  ((hr.contents (List.Perm.refl dirs)).filterMap _).map _

/-- Whether the first of the directories that holds a path with `q` holds no other such path. -/
def HoldsOne (realPath : Path → Option Path) (reader : Reader) (request : Request)
    (media : FileName) (q : String → Bool) (dirs : List (Path × Location)) : Prop :=
  ∀ before d after, dirs = before ++ d :: after →
    (∀ path ∈ request.pathsIn realPath reader media before, ¬ q path) →
    ∀ path ∈ request.pathsIn realPath reader media [d],
      ∀ path' ∈ request.pathsIn realPath reader media [d], q path → q path' → path = path'

theorem find?_pathsIn {q : String → Bool} (hr : reader.Rearranges reader')
    (h : request.HoldsOne realPath reader media q dirs) :
    (request.pathsIn realPath reader media dirs).find? q =
      (request.pathsIn realPath reader' media dirs).find? q := by
  induction dirs with
  | nil => rfl
  | cons d dirs ih =>
    have hone := h [] d dirs rfl (by simp [pathsIn, Reader.contents])
    have hfirst : (request.pathsIn realPath reader media [d]).find? q =
        (request.pathsIn realPath reader' media [d]).find? q := by
      apply List.find?_eq_find?_of_perm (pathsIn_perm hr [d])
      rintro path ⟨hpath, hq⟩ path' ⟨hpath', hq'⟩
      exact hone path hpath path' hpath' hq hq'
    have hsplit : ∀ r : Reader, request.pathsIn realPath r media (d :: dirs) =
        request.pathsIn realPath r media [d] ++ request.pathsIn realPath r media dirs :=
      fun r => pathsIn_append [d] dirs
    rw [hsplit, hsplit, List.find?_append, List.find?_append, ← hfirst]
    cases hd : (request.pathsIn realPath reader media [d]).find? q with
    | some path => rfl
    | none =>
      -- The directory leaves the choice to those after it.
      rw [Option.none_or, Option.none_or]
      apply ih
      intro before e after hdirs hno
      apply h (d :: before) e after (by rw [hdirs]; rfl)
      intro path hpath
      rw [← List.singleton_append, pathsIn_append, List.mem_append] at hpath
      rcases hpath with hpath | hpath
      · exact List.find?_eq_none.mp hd path hpath
      · exact hno path hpath

/-- What a directory names first is found first there, whatever else it holds. -/
theorem find?_leading {q : String → Bool} {i : Companion} (after : List (Path × Location))
    (hno : ∀ path ∈ request.pathsIn realPath reader media before, ¬ q path)
    (he : entry ∈ reader.found d.1 d.2)
    (hi : request.companion? realPath media entry = some i) (hq : q i.path) :
    (request.pathsIn realPath (reader.leading d entry) media (before ++ d :: after)).find? q =
      some i.path := by
  have hbefore :
      (request.pathsIn realPath (reader.leading d entry) media before).find? q = none := by
    rw [List.find?_eq_none]
    intro path hpath
    exact hno path ((pathsIn_perm (reader.rearranges_leading d entry) before).mem_iff.mpr hpath)
  obtain ⟨rest, hrest⟩ := Reader.found_leading he
  rw [pathsIn_append, List.find?_append, hbefore, Option.none_or, pathsIn, Reader.contents_cons,
    hrest, List.cons_append, List.filterMap_cons, hi]
  exact List.find?_cons_of_pos hq

/-- Whether no subtitle stream has to choose among several indexes of one directory. -/
def IsUnrivalled (realPath : Path → Option Path) (reader : Reader) (request : Request) : Prop :=
  ∀ dir media, request.splitMedia = .ok (dir, media) →
    ∀ c ∈ request.gathered realPath reader dir media, c.hasExtension "sub" →
      request.HoldsOne realPath reader media c.indexPath (request.searched realPath dir)

theorem gathered_rearranged (hr : reader.Rearranges reader') (dir : Path) (media : FileName) :
    (request.gathered realPath reader dir media).Perm
      (request.gathered realPath reader' dir media) :=
  (hr.contents (List.Perm.refl _)).filterMap _

theorem dropped_rearranged [Std.TransCmp collator] [Std.LawfulEqCmp collator]
    (hs : request.splitMedia = .ok (dir, media)) (hr : reader.Rearranges reader')
    (h : request.IsUnrivalled realPath reader) :
    Companion.dropped collator (request.gathered realPath reader dir media) =
      Companion.dropped collator (request.gathered realPath reader' dir media) := by
  apply Companion.dropped_eq_of_perm (gathered_rearranged hr dir media)
    (fun c hc => rejection_of_mem_gathered hc) eq_of_path_of_priority
  intro c hc
  apply Companion.objection?_eq
  intro hsub
  exact find?_pathsIn hr (h dir media hs c hc hsub)

/-- A stream is said to give way to the index that its directory names first. -/
theorem mem_dropped_leading {c i : Companion} (collator : Collator)
    (hc : c ∈ request.gathered realPath reader dir media) (hsub : c.hasExtension "sub")
    (hdirs : request.searched realPath dir = before ++ d :: after)
    (hno : ∀ path ∈ request.pathsIn realPath reader media before, ¬ c.indexPath path)
    (he : entry ∈ reader.found d.1 d.2)
    (hi : request.companion? realPath media entry = some i) (hq : c.indexPath i.path) :
    { c with rejection := some (.pairedWithIndex i.path) } ∈ Companion.dropped collator
      (request.gathered realPath (reader.leading d entry) dir media) := by
  have hperm := @gathered_rearranged realPath _ _ request (reader.rearranges_leading d entry) dir
    media
  apply Companion.mem_dropped_of_objection (hperm.mem_iff.mp hc) (rejection_of_mem_gathered hc)
  have hfound := find?_leading after hno he hi hq
  rw [← hdirs] at hfound
  rw [Companion.objection?_sub hsub]
  exact congrArg (Option.map _) hfound

theorem exists_of_mem_pathsIn {path : String}
    (h : path ∈ request.pathsIn realPath reader media [d]) :
    ∃ e ∈ reader.found d.1 d.2, ∃ i, request.companion? realPath media e = some i ∧
      i.path = path := by
  obtain ⟨i, hi, hpath⟩ := List.mem_map.mp h
  obtain ⟨e, he, hi⟩ := List.mem_filterMap.mp hi
  obtain ⟨d', hd, he⟩ := List.mem_flatMap.mp he
  rw [List.mem_singleton.mp hd] at he
  exact ⟨e, he, i, hi, hpath⟩

/-- A search that is turned off gathers nothing. -/
theorem on_of_mem_gathered {c : Companion}
    (h : c ∈ request.gathered realPath reader dir media) : request.threshold ≠ .disabled := by
  intro hoff
  obtain ⟨e, -, hc⟩ := mem_gathered.mp h
  have haccepted := (companion?_eq_some.mp hc).1.accepted
  rw [hoff] at haccepted
  cases haccepted

/-- In whatever order the entries of each directory are read, a search rejects the same companions
for the same reasons, if and only if no subtitle stream has to choose among several indexes of one
directory. -/
theorem rejected_rearranged_iff [Std.TransCmp collator] [Std.LawfulEqCmp collator]
    (realPath : Path → Option Path) (reader : Reader) (request : Request) :
    (∀ reader', reader.Rearranges reader' →
      (request.detect realPath reader' collator).value.map Detection.rejected =
        (request.detect realPath reader collator).value.map Detection.rejected) ↔
      request.IsUnrivalled realPath reader := by
  constructor
  · intro h dir media hs c hc hsub before d after hdirs hno path hpath path' hpath' hq hq'
    have hon := on_of_mem_gathered hc
    have hnew : ∀ c ∈ request.gathered realPath reader dir media, c.rejection = none :=
      fun c hc => rejection_of_mem_gathered hc
    -- Each of the indexes can be read first, so the stream gives way to each.
    have hway : ∀ p ∈ request.pathsIn realPath reader media [d], c.indexPath p →
        Companion.objection? (request.gathered realPath reader dir media) c =
          some (.pairedWithIndex p) := by
      intro p hp hq
      obtain ⟨e, he, i, hi, rfl⟩ := exists_of_mem_pathsIn hp
      have hsame := h _ (reader.rearranges_leading d e)
      rw [value_detect hon hs, value_detect hon hs] at hsame
      have hdropped := mem_dropped_leading collator hc hsub hdirs hno he hi hq
      rw [show Companion.dropped collator _ = _ from Except.ok.inj hsame] at hdropped
      exact (Companion.rejection_of_mem_dropped hnew hdropped).symm
    have hreason := (hway path hpath hq).symm.trans (hway path' hpath' hq')
    exact Rejection.pairedWithIndex.inj (Option.some.inj hreason)
  · intro h reader' hr
    by_cases hoff : request.threshold = .disabled
    · rw [value_detect_disabled hoff, value_detect_disabled hoff]
    · cases hs : request.splitMedia with
      | error error => rw [value_detect_error hoff hs, value_detect_error hoff hs]
      | ok parts =>
        obtain ⟨dir, media⟩ := parts
        rw [value_detect hoff hs, value_detect hoff hs]
        exact congrArg Except.ok (dropped_rearranged hs hr h).symm

theorem rejected_rearranged_iff_movie :
    let request : Request := ⟨Path.ofText "/m/Movie.mkv", [], .standard, false, .sidecar⟩
    let reader := Reader.ofFiles (Path.ofText "/m") ["Movie.sub", "MOVIE.idx", "Movie.en.idx"]
    request.IsUnrivalled (fun _ => none) reader ∧
      ∀ reader', reader.Rearranges reader' →
        (request.detect (fun _ => none) reader' Order.ascii).value.map Detection.rejected =
          (request.detect (fun _ => none) reader Order.ascii).value.map Detection.rejected := by
  intro request reader
  have hs : request.splitMedia = .ok (Path.ofText "/m", "Movie.mkv") := rfl
  have hone : ∀ c ∈ request.gathered (fun _ => none) reader (Path.ofText "/m") "Movie.mkv",
      let paths := request.pathsIn (fun _ => none) reader "Movie.mkv"
        [(Path.ofText "/m", .primary)]
      ∀ path ∈ paths, ∀ path' ∈ paths, c.indexPath path → c.indexPath path' → path = path' := by
    decide +kernel
  have hunrivalled : request.IsUnrivalled (fun _ => none) reader := by
    intro dir media hparts c hc hsub before d after hdirs hno
    cases hs.symm.trans hparts
    cases before with
    | nil =>
      cases hdirs
      exact hone c hc
    | cons d' before => simp [searched, request, extraDirectories] at hdirs
  exact ⟨hunrivalled, (rejected_rearranged_iff _ reader request).mpr hunrivalled⟩

/-- Of two indexes that differ in case alone the one that is read first is named. -/
theorem rejected_not_rearranged :
    let request : Request := ⟨Path.ofText "/m/Movie.mkv", [], .standard, false, .sidecar⟩
    let reader := Reader.ofFiles (Path.ofText "/m") ["Movie.idx", "MOVIE.idx", "Movie.sub"]
    let reader' := Reader.ofFiles (Path.ofText "/m") ["MOVIE.idx", "Movie.idx", "Movie.sub"]
    reader.Rearranges reader' ∧
      (request.detect (fun _ => none) reader Order.ascii).value.map Detection.rejected ≠
        (request.detect (fun _ => none) reader' Order.ascii).value.map Detection.rejected := by
  intro request reader reader'
  have hs : request.splitMedia = .ok (Path.ofText "/m", "Movie.mkv") := rfl
  have hon : request.threshold ≠ .disabled := by decide
  refine ⟨Reader.rearranges_ofFiles (List.Perm.swap _ _ _) _, ?_⟩
  rw [value_detect hon hs, value_detect hon hs]
  intro h
  let sub : Companion :=
    ⟨"/m/Movie.sub", .subtitle, .matchAll, some (.pairedWithIndex "/m/Movie.idx")⟩
  have hsub : sub ∈ Companion.dropped Order.ascii
      (request.gathered (fun _ => none) reader (Path.ofText "/m") "Movie.mkv") :=
    Companion.mem_dropped.mpr (by decide +kernel)
  rw [show Companion.dropped Order.ascii _ = _ from Except.ok.inj h] at hsub
  exact absurd (Companion.mem_dropped.mp hsub).1 (by decide +kernel)

end Request

end TrackFinder
