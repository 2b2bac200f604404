import TrackFinder.Text

/-! File names: stem, extension, and the key under which two names are compared. -/

namespace TrackFinder

/-- The name of a directory entry. -/
abbrev FileName := String

/-- The words of a text with one space between them: its runs of ASCII letters and digits, in small
letters. `gap` says that other characters have been passed since the last word, `started` that a
word has been written. -/
def simplifyFrom (gap started : Bool) : List Char → List Char
  | [] => []
  | c :: rest =>
    if c.isAlphanum then
      if gap && started then ' ' :: c.toLower :: simplifyFrom false true rest
      else c.toLower :: simplifyFrom false true rest
    else simplifyFrom true started rest

def simplify (text : String) : String := String.ofList (simplifyFrom false false text.toList)

namespace FileName

/-- The name up to its last dot. -/
def stem (name : FileName) : String :=
  match Text.cutLast '.' name.toList with
  | some (before, _) => String.ofList before
  | none => name

/-- What follows the last dot, if anything does. -/
def extension? (name : FileName) : Option String :=
  match Text.cutLast '.' name.toList with
  | some (_, after) => if after = [] then none else some (String.ofList after)
  | none => none

/-- The simplified stem. -/
def key (name : FileName) : String := simplify name.stem

end FileName

end TrackFinder
