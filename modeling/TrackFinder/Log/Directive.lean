import TrackFinder.Event
import TrackFinder.Log.Pattern
import TrackFinder.Text
import TrackFinder.Text.Utf8

/-! Directives of a log filter: `level`, `target`, `target=level`, and `target[{field}]=level`. -/

namespace TrackFinder

/-- Events whose target starts with `target`, and that tell of `field` if one is named, are logged
up to a level; `none` logs none of them. -/
structure Directive where
  target : String
  field : Option String
  level : Option Level
deriving DecidableEq

namespace Directive

/-- The level that a word or a number names; the inner `none` is no level at all. -/
def level? (text : String) : Option (Option Level) :=
  match Text.unsigned? text.toList with
  | some 0 => some none
  | some n => (Level.all.find? fun level => level.rank == n).map some
  | none =>
    let word := Ascii.fold text.toList
    if word = "off".toList then some none
    else (Level.all.find? fun level => Ascii.fold level.name.toList == word).map some

/-- Whether digits write a number, with a point, an exponent or neither, or words stand for one. -/
def isMeasure (text : List Char) : Bool :=
  let word := Ascii.fold text
  let whole := word.takeWhile Char.isDigit
  let afterWhole := word.dropWhile Char.isDigit
  let pointed := afterWhole.head? = some '.'
  let fraction := if pointed then (afterWhole.drop 1).takeWhile Char.isDigit else []
  let afterFraction := if pointed then (afterWhole.drop 1).dropWhile Char.isDigit else afterWhole
  let written := (whole ++ fraction) ≠ []
  let ended :=
    match afterFraction with
    | [] => true
    | 'e' :: exponent => (Text.integer? exponent).isSome
    | _ => false
  word = "inf".toList || word = "infinity".toList || word = "nan".toList || (written && ended)

/-- Whether a text may stand for the value of a field: a number with a plus, or a pattern. -/
def isValue : List Char → Bool
  | '+' :: text => isMeasure text
  | text => Pattern.wellFormed text

/-- What a directive asks of a field: to be there, or to have a certain value. -/
inductive Demand where
  | present (field : String)
  | equal

/-- The demand written as a name, or as a name and a value with an equals sign between. -/
def demand? (text : String) : Option Demand :=
  match text.toList.splitOn '=' with
  | [] => none
  | [name] => if name = [] then none else some (.present (String.ofList name))
  | _ :: value :: _ => if isValue value then some .equal else none

/-- What of a directive is known: its target, whether it is bound to a span, and its demand. -/
structure Draft where
  target : String
  spanned : Bool
  demand : Option Demand

/-- Where in a directive the reading stands; `since` is the place where the part at hand starts. -/
inductive Stage where
  | start
  | targetOrLevel (since : Nat)
  | span (since : Nat)
  | field (since : Nat)
  | fieldRead
  | spanRead
  | level (since : Nat)

/-- One more character, at place `i`. Of the text between two places `part?` is the reading. -/
def step (part? : Nat → Nat → Option String) (draft : Draft) (i : Nat) (c : Char) :
    Stage → Option (Draft × Stage)
  | .start =>
    if c = '[' then some (draft, .span (i + 1))
    else if Text.isAlphanumeric c || c = '-' || c = ':' || c = '_' then
      some (draft, .targetOrLevel i)
    else none
  | .targetOrLevel since =>
    if c = '=' then
      (part? since i).map fun target => ({ draft with target := target }, .level (i + 1))
    else if c = '[' then
      (part? since i).map fun target => ({ draft with target := target }, .span (i + 1))
    else some (draft, .targetOrLevel since)
  | .span since =>
    if c = ']' then some ({ draft with spanned := true }, .spanRead)
    else if c = '\x7b' then some ({ draft with spanned := since ≠ i }, .field (i + 1))
    else some (draft, .span since)
  | .field since =>
    if c = '\x7d' then
      ((part? since i).bind demand?).map fun demand =>
        ({ draft with demand := some demand }, .fieldRead)
    else some (draft, .field since)
  | .fieldRead => if c = ']' then some (draft, .spanRead) else none
  | .spanRead => if c = '=' then some (draft, .level (i + 1)) else none
  | .level since => some (draft, .level since)

/-- Reads on from place `i`. -/
def readFrom (part? : Nat → Nat → Option String) (i : Nat) (draft : Draft) (stage : Stage) :
    List Char → Option (Draft × Stage)
  | [] => some (draft, stage)
  | c :: rest =>
    (step part? draft i c stage).bind fun (draft, stage) =>
      readFrom part? (i + c.utf8Size) draft stage rest

/-- The directive of a draft. Nothing comes from one that only counts within spans or for certain
values. -/
def ofDraft (draft : Draft) (level : Option Level) : Option Directive :=
  if draft.spanned then none
  else
    match draft.demand with
    | none => some ⟨draft.target, none, level⟩
    | some (.present field) => some ⟨draft.target, some field, level⟩
    | some .equal => none

/-- The directive that a text writes, if any comes from it; the outer `none` says that the text is
malformed. A directive without a level is logged whole. Blanks around it are passed over when it is
divided into parts, but each part is taken from as far into the text as if they were not there. -/
def ofText? (text : List Char) : Option (Option Directive) :=
  let bytes := Utf8.encode (String.ofList text)
  let part? (since stop : Nat) := Utf8.decode? ((bytes.take stop).drop since)
  match readFrom part? 0 ⟨"", false, none⟩ .start (Text.trim text) with
  | some (draft, .targetOrLevel since) =>
    (part? since bytes.length).map fun last =>
      match level? last with
      | some level => ofDraft draft level
      | none => ofDraft { draft with target := last } (some .trace)
  | some (draft, .level since) =>
    (part? since bytes.length).bind fun last =>
      if last = "" then some (ofDraft draft (some .trace)) else (level? last).map (ofDraft draft)
  | some (draft, .spanRead) => some (ofDraft draft (some .trace))
  | _ => none

end Directive

end TrackFinder
