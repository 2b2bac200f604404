import TrackFinder.Log.Directive
import TrackFinder.Order.Text

/-! Which events are logged. -/

namespace TrackFinder

/-- The names under which a filter may speak of the parts of the program. -/
abbrev LogTargets := Origin → String

/-- One name for the program, and one below it for each part of the library. -/
def LogTargets.standard : LogTargets
  | .settings => "companions::settings"
  | .search => "companions::search"
  | .conflict => "companions::conflict"
  | .detection => "companions::detection"
  | .playlist => "companions::playlist"
  | .program => "companions"

abbrev LogFilter := List Directive

namespace Directive

/-- Whether an event is one that a directive speaks of. -/
def fits (targets : LogTargets) (event : Event) (d : Directive) : Bool :=
  d.target.toList.isPrefixOf (targets event.origin).toList &&
    d.field.all fun field => event.fields.any fun (name, _) => name == field

/-- Orders directives by how narrowly they speak: by the length of the target, then by whether they
name a field, and which. -/
def compareNarrowness (a b : Directive) : Ordering :=
  (compare a.target.length b.target.length).then <|
    match a.field, b.field with
    | none, none => .eq
    | none, some _ => .lt
    | some _, none => .gt
    | some a, some b => Order.plain a b

/-- The narrower of two directives; of two that are alike the second. -/
def narrower (best : Option Directive) (d : Directive) : Option Directive :=
  match best with
  | some b => if (b.compareNarrowness d).isLE then some d else some b
  | none => some d

end Directive

namespace LogFilter

def standard : LogFilter := [⟨"", none, some .info⟩]

/-- The filter written with commas; one without directives logs errors only. -/
def ofText? (text : String) : Option LogFilter :=
  match (text.toList.splitOn ',').filter (· ≠ []) with
  | [] => some [⟨"", none, some .error⟩]
  | pieces => (pieces.mapM Directive.ofText?).map fun read => read.filterMap id

/-- Of the directives that speak of an event, the narrowest decides. -/
def admits (targets : LogTargets) (filter : LogFilter) (event : Event) : Bool :=
  match (filter.filter (Directive.fits targets event)).foldl Directive.narrower none with
  | some ⟨_, _, some level⟩ => event.level.rank ≤ level.rank
  | _ => false

end LogFilter

end TrackFinder
