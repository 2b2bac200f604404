import Mathlib.Data.List.Basic
import TrackFinder.Proofs.Companion.Stem
import TrackFinder.Proofs.Detection.Outcome
import TrackFinder.Proofs.Order.Lawful

/-! A request that asks for less takes companions away and changes nothing about the others, as long
as it takes away all companions of a stem or none: no subtitle stream is left without the index that
it gave way to, and none stands again because its index is gone. -/
namespace TrackFinder

variable {realPath : Path → Option Path} {reader : Reader} {collator : Collator}
  {wide narrow : Request} {media : FileName} {entry : Entry} {entries : List Entry}
  {p : Companion → Bool}

namespace Companion

variable {all : List Companion} {c : Companion}

theorem index?_filter (h : ∀ i ∈ all, i.sameStem c → p i) :
    index? (all.filter p) c = index? all c := by
  unfold index?
  induction all with
  | nil => rfl
  | cons i all ih =>
    have ih := ih fun j hj => h j (List.mem_cons_of_mem i hj)
    by_cases hp : p i
    · rw [List.filter_cons_of_pos hp, List.find?_cons, List.find?_cons, ih]
    -- What is left out does not have the stem, so it was not the index.
    · have hs : i.sameStem c = false := by
        rw [← Bool.not_eq_true]
        intro hs
        exact hp (h i (List.mem_cons_self ..) hs)
      rw [List.filter_cons_of_neg hp, ih, List.find?_cons_of_neg]
      simp [hs]

theorem verdict_filter (h : ∀ i ∈ all, i.sameStem c → p i) :
    verdict (all.filter p) c = verdict all c := by
  simp only [verdict, objection?, index?_filter h]

theorem map_verdict_filter (hstem : ∀ c ∈ all, p c → ∀ i ∈ all, i.sameStem c → p i)
    (hp : ∀ c, p (verdict all c) = p c) :
    (all.filter p).map (verdict (all.filter p)) = (all.map (verdict all)).filter p := by
  have hcomp : p ∘ verdict all = p := funext hp
  rw [List.filter_map, hcomp]
  apply List.map_congr_left
  intro c hc
  obtain ⟨hc, hpc⟩ := List.mem_filter.mp hc
  exact verdict_filter (hstem c hc hpc)

/-- What is taken away before the others are judged may as well be taken away after. -/
theorem sort_verdict_filter [Std.TransCmp collator]
    (hstem : ∀ c ∈ all, p c → ∀ i ∈ all, i.sameStem c → p i)
    (hp : ∀ c, p (verdict all c) = p c) (q : Companion → Bool) :
    Order.sort (Order.companions collator)
        (((all.filter p).map (verdict (all.filter p))).filter q) =
      (Order.sort (Order.companions collator) ((all.map (verdict all)).filter q)).filter p := by
  rw [map_verdict_filter hstem hp, Order.sort_filter, List.filter_filter, List.filter_filter]
  simp only [Bool.and_comm]

end Companion

/-- The detection without the companions that `p` does not hold of. -/
def Detection.only (p : Companion → Bool) (detection : Detection) : Detection :=
  { detection with
    candidates := detection.candidates.filter p
    rejected := detection.rejected.filter p }

namespace Request

/-- Where fewer entries fit, those that do are the same companions. -/
theorem companion?_eq_filter (hmode : narrow.mode = wide.mode)
    (hwider : narrow.Fits realPath media entry → wide.Fits realPath media entry)
    (hp : ∀ c, wide.companion? realPath media entry = some c →
      (p c ↔ narrow.Fits realPath media entry)) :
    narrow.companion? realPath media entry = (wide.companion? realPath media entry).filter p := by
  have hpriority : narrow.priorityOf media entry = wide.priorityOf media entry := by
    rw [priorityOf, priorityOf, hmode]
  ext c
  rw [Option.filter_eq_some_iff]
  constructor
  · intro h
    obtain ⟨hfit, path, kind, ht, hk, hc⟩ := companion?_eq_some.mp h
    rw [hpriority] at hc
    have hwide := companion?_eq_some.mpr ⟨hwider hfit, path, kind, ht, hk, hc⟩
    exact ⟨hwide, (hp c hwide).mpr hfit⟩
  · rintro ⟨hwide, hpc⟩
    obtain ⟨-, path, kind, ht, hk, hc⟩ := companion?_eq_some.mp hwide
    rw [← hpriority] at hc
    exact companion?_eq_some.mpr ⟨(hp c hwide).mp hpc, path, kind, ht, hk, hc⟩

/-- Whether `narrow` asks for the companions of `wide` that `p` holds of, and for all or none of a
stem. -/
structure Narrows (realPath : Path → Option Path) (p : Companion → Bool)
    (wide narrow : Request) : Prop where
  media_eq : narrow.media = wide.media
  searchPaths_eq : narrow.searchPaths = wide.searchPaths
  isOff : narrow.threshold = .disabled ↔ wide.threshold = .disabled
  companion?_eq : ∀ (media : FileName) (e : Entry), '/' ∉ e.name.toList →
    narrow.companion? realPath media e = (wide.companion? realPath media e).filter p
  ofSameStem : ∀ (media : FileName) (e e' : Entry) (c i : Companion), '/' ∉ e.name.toList →
    '/' ∉ e'.name.toList → wide.companion? realPath media e = some c →
    wide.companion? realPath media e' = some i → i.sameStem c → p c → p i
  ofBare : ∀ c : Companion, p c.bare = p c

namespace Narrows

theorem splitMedia_eq (h : wide.Narrows realPath p narrow) :
    narrow.splitMedia = wide.splitMedia := by
  rw [splitMedia, splitMedia, h.media_eq]

theorem filterMap_eq (h : wide.Narrows realPath p narrow)
    (hn : ∀ e ∈ entries, '/' ∉ e.name.toList) (media : FileName) :
    entries.filterMap (narrow.companion? realPath media) =
      (entries.filterMap (wide.companion? realPath media)).filter p := by
  rw [List.filter_filterMap]
  exact List.filterMap_congr fun e he => h.companion?_eq media e (hn e he)

theorem sort_verdict_eq [Std.TransCmp collator] (h : wide.Narrows realPath p narrow)
    (hn : ∀ e ∈ entries, '/' ∉ e.name.toList) (media : FileName) (q : Companion → Bool) :
    let chosen := entries.filterMap (narrow.companion? realPath media)
    let all := entries.filterMap (wide.companion? realPath media)
    Order.sort (Order.companions collator) ((chosen.map (Companion.verdict chosen)).filter q) =
      (Order.sort (Order.companions collator) ((all.map (Companion.verdict all)).filter q)).filter
        p := by
  intro chosen all
  have hstem : ∀ c ∈ all, p c → ∀ i ∈ all, i.sameStem c → p i := by
    intro c hc hpc i hi hs
    obtain ⟨e, he, hc⟩ := List.mem_filterMap.mp hc
    obtain ⟨e', he', hi⟩ := List.mem_filterMap.mp hi
    exact h.ofSameStem media e e' c i (hn e he) (hn e' he') hc hi hs hpc
  have hverdict : ∀ c, p (Companion.verdict all c) = p c := by
    intro c
    rw [← h.ofBare, Companion.bare_verdict, h.ofBare]
  have hchosen : chosen = all.filter p := h.filterMap_eq hn media
  rw [hchosen]
  exact Companion.sort_verdict_filter hstem hverdict q

theorem kept_eq [Std.TransCmp collator] (h : wide.Narrows realPath p narrow)
    (hn : ∀ e ∈ entries, '/' ∉ e.name.toList) (media : FileName) :
    Companion.kept collator (entries.filterMap (narrow.companion? realPath media)) =
      (Companion.kept collator (entries.filterMap (wide.companion? realPath media))).filter p :=
  h.sort_verdict_eq hn media _

theorem dropped_eq [Std.TransCmp collator] (h : wide.Narrows realPath p narrow)
    (hn : ∀ e ∈ entries, '/' ∉ e.name.toList) (media : FileName) :
    Companion.dropped collator (entries.filterMap (narrow.companion? realPath media)) =
      (Companion.dropped collator (entries.filterMap (wide.companion? realPath media))).filter p :=
  h.sort_verdict_eq hn media _

/-- What a narrower search finds is what the wider one finds, less what it does not ask for. -/
theorem detect_eq [Std.TransCmp collator] (h : wide.Narrows realPath p narrow)
    (hn : reader.HasStepNames) :
    (narrow.detect realPath reader collator).value =
      (wide.detect realPath reader collator).value.map (Detection.only p) := by
  by_cases hoff : wide.threshold = .disabled
  · rw [value_detect_disabled hoff, value_detect_disabled (h.isOff.mpr hoff), h.media_eq]
    rfl
  · have hon : narrow.threshold ≠ .disabled := fun hoff' => hoff (h.isOff.mp hoff')
    cases hs : wide.splitMedia with
    | error error =>
      rw [value_detect_error hoff hs, value_detect_error hon (h.splitMedia_eq.trans hs)]
      rfl
    | ok parts =>
      obtain ⟨dir, media⟩ := parts
      have hdirs : narrow.searched realPath dir = wide.searched realPath dir := by
        rw [searched, searched, h.searchPaths_eq]
      rw [value_detect hoff hs, value_detect hon (h.splitMedia_eq.trans hs), gathered, gathered,
        hdirs, h.kept_eq (hn.contents _), h.dropped_eq (hn.contents _), h.media_eq]
      rfl

end Narrows

end Request

end TrackFinder
