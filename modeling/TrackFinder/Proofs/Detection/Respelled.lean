import TrackFinder.Proofs.Detection.Outcome
import TrackFinder.Proofs.Request.Media

/-! Where no path is real, the spelling of the media path makes no difference to a search. -/
namespace TrackFinder

variable {realPath : Path → Option Path} {reader : Reader} {collator : Collator}
  {request : Request} {path dir dir' : Path} {media media' : FileName} {entry : Entry}

namespace Request

/-- Spellings of one path have the same name in the same directory. -/
theorem splitMedia_respelled (h : request.media.normalize = path.normalize)
    (hs : request.splitMedia = .ok (dir, media))
    (hs' : { request with media := path }.splitMedia = .ok (dir', media')) :
    dir.normalize = dir'.normalize ∧ media = media' := by
  have hsteps := Path.normalize_inj.mp h
  have hpath := collapsed_media hs'
  dsimp only at hpath
  rw [collapsed_media hs, hpath] at hsteps
  obtain ⟨hname, hdir⟩ := List.cons.inj hsteps
  exact ⟨Path.normalize_inj.mpr hdir, Utf8.encode_injective (Component.name.inj hname)⟩

theorem searched_congr (h : dir.normalize = dir'.normalize) :
    request.searched realPath dir = { request with media := path }.searched realPath dir' := by
  simp only [searched, h]

/-- Where no path is real, the media file is known by the normal form of its path. -/
theorem companion?_respelled (h : request.media.normalize = path.normalize) :
    request.companion? (fun _ => none) media entry =
      { request with media := path }.companion? (fun _ => none) media entry := by
  have hjudge : { request with media := path }.judge media.key entry =
      request.judge media.key entry := rfl
  have hsame : entry.path.sameFile (fun _ => none) request.media =
      entry.path.sameFile (fun _ => none) path := by simp only [Path.sameFile, h]
  simp only [companion?, hjudge, hsame]

theorem gathered_respelled (h : request.media.normalize = path.normalize)
    (hdir : dir.normalize = dir'.normalize) :
    request.gathered (fun _ => none) reader dir media =
      { request with media := path }.gathered (fun _ => none) reader dir' media := by
  rw [gathered, gathered, ← searched_congr hdir]
  exact congrArg (List.filterMap · _) (funext fun e => companion?_respelled h)

/-- Requests for one media file by two spellings of its path go through the same directories and
find the same. -/
theorem detect_respelled (h : request.media.normalize = path.normalize)
    (hs : request.splitMedia = .ok (dir, media))
    (hs' : { request with media := path }.splitMedia = .ok (dir', media')) :
    request.directories (fun _ => none) =
        { request with media := path }.directories (fun _ => none) ∧
      ∃ detection,
        (request.detect (fun _ => none) reader collator).value = .ok detection ∧
        ({ request with media := path }.detect (fun _ => none) reader collator).value =
          .ok { detection with media := path } := by
  obtain ⟨hdir, rfl⟩ := splitMedia_respelled h hs hs'
  constructor
  · rw [directories_eq hs, directories_eq hs']
    exact congrArg Except.ok (searched_congr hdir)
  · by_cases hoff : request.threshold = .disabled
    · have hoff' : { request with media := path }.threshold = .disabled := hoff
      exact ⟨_, value_detect_disabled hoff, value_detect_disabled hoff'⟩
    · have hon' : { request with media := path }.threshold ≠ .disabled := hoff
      refine ⟨_, value_detect hoff hs, ?_⟩
      rw [value_detect hon' hs', ← gathered_respelled h hdir, ← searched_congr hdir]

theorem detect_respelled_movie :
    (standard (Path.ofText "Movie.mkv")).directories (fun _ => none) =
        (standard (Path.ofText "Subs/.././/Movie.mkv/.")).directories (fun _ => none) ∧
      ∃ detection,
        ((standard (Path.ofText "Movie.mkv")).detect (fun _ => none)
          (.ofFiles (Path.ofText ".") ["Movie.srt"]) Order.ascii).value = .ok detection ∧
        ((standard (Path.ofText "Subs/.././/Movie.mkv/.")).detect (fun _ => none)
          (.ofFiles (Path.ofText ".") ["Movie.srt"]) Order.ascii).value =
            .ok { detection with media := Path.ofText "Subs/.././/Movie.mkv/." } :=
  detect_respelled (by decide)
    (show (standard (Path.ofText "Movie.mkv")).splitMedia =
      .ok (Path.ofText ".", "Movie.mkv") from rfl)
    (show (standard (Path.ofText "Subs/.././/Movie.mkv/.")).splitMedia =
      .ok (Path.ofText "Subs/..", "Movie.mkv") from rfl)

end Request

end TrackFinder
