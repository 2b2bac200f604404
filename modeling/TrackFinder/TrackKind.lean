import TrackFinder.FileName
import TrackFinder.Text

/-! The kinds of companion tracks, told from file extensions. -/

namespace TrackFinder

inductive TrackKind where
  | subtitle
  | audio
deriving DecidableEq

/-- Whether a name's extension is one of `extensions`, in any case. -/
def FileName.hasExtensionIn (extensions : List String) (name : FileName) : Bool :=
  match name.extension? with
  | some extension => extensions.any fun e => Ascii.same e.toList extension.toList
  | none => false

namespace TrackKind

def all : List TrackKind := [subtitle, audio]

def name : TrackKind → String
  | subtitle => "subtitle"
  | audio => "audio"

/-- The extensions of a kind, in small letters. -/
def extensions : TrackKind → List String
  | subtitle =>
    ["idx", "sub", "srt", "ssa", "ass", "smi", "utf", "utf8", "utf-8", "rt", "aqt", "txt", "usf",
      "jss", "cdg", "psb", "mpsub", "mpl2", "pjs", "dks", "stl", "vtt", "sbv"]
  | audio => ["ac3"]

/-- The kind of track a file holds; `none` for a file that is no companion. -/
def ofFileName? (name : FileName) : Option TrackKind :=
  all.find? fun kind => name.hasExtensionIn kind.extensions

end TrackKind

/-- Whether a name's extension stands in a comma-separated list. -/
def FileName.hasListedExtension (list : String) (name : FileName) : Bool :=
  name.hasExtensionIn (Text.commaItems list)

end TrackFinder
