import TrackFinder.Detection

/-! A directory as a playlist, each item with its companions. -/

namespace TrackFinder

/-- `ignored` lists, with commas, the extensions of entries that are left out; companions never
are. `alreadySorted` keeps the order of the entries. -/
structure ListingOptions where
  threshold : Threshold
  showHidden : Bool
  ignored : String
  sort : SortMode
  alreadySorted : Bool
deriving DecidableEq

namespace ListingOptions

def standardIgnored : String :=
  "m3u,db,nfo,ini,jpg,jpeg,ljpg,gif,png,pgm,pgmyuv,pbm,pam,tga,bmp," ++
    "pnm,xpm,xcf,pcx,tif,tiff,lbm,sfv,txt,sub,idx,srt,cue,ssa"

def standard : ListingOptions := ⟨.standard, false, standardIgnored, .collate, false⟩

end ListingOptions

structure Item where
  name : FileName
  path : Path
  isDirectory : Bool
  companions : List Companion
  rejected : List Companion
deriving DecidableEq

structure Playlist where
  dir : Path
  items : List Item
deriving DecidableEq

namespace Playlist

/-- Whether an entry is a companion and no item. A directory is an item whatever its name. -/
def isTrack (entry : Entry) : Bool :=
  !entry.isDirectory && (TrackKind.ofFileName? entry.name).isSome

/-- The companion files among the entries. -/
def tracks (options : ListingOptions) (entries : List Entry) : List Entry :=
  entries.filter fun entry => !entry.isSkipped options.showHidden && isTrack entry

/-- The entries that become items. -/
def playable (options : ListingOptions) (entries : List Entry) : List Entry :=
  entries.filter fun entry =>
    !entry.isSkipped options.showHidden && !isTrack entry &&
      !entry.name.hasListedExtension options.ignored

/-- The request for the companions of an item. -/
def request (options : ListingOptions) (media : Path) : Request :=
  ⟨media, [], options.threshold, options.showHidden, .listing⟩

/-- The item of an entry. Directories have no companions. -/
def item (realPath : Path → Option Path) (options : ListingOptions) (collator : Collator)
    (tracks : List Entry) (entry : Entry) : Run Item := do
  let bare : Item := ⟨entry.name, entry.path, entry.isDirectory, [], []⟩
  if entry.isDirectory || options.threshold = .disabled then return bare
  else
    match ← (request options entry.path).gather realPath (Scan.ofEntries tracks) with
    | .error error =>
      Run.log (.attachmentSkipped entry.name error)
      return bare
    | .ok (companions, _) =>
      let (accepted, rejected) ← Companion.conclude collator companions
      return { bare with companions := accepted, rejected := rejected }

/-- The order of items. -/
def order (mode : SortMode) (collator : Collator) (a b : Item) : Ordering :=
  Order.entries mode collator (a.name, a.isDirectory) (b.name, b.isDirectory)

/-- The playlist of the entries of `dir`. -/
def ofEntries (realPath : Path → Option Path) (collator : Collator) (options : ListingOptions)
    (dir : Path) (entries : List Entry) : Run Playlist := do
  let tracks := tracks options entries
  let items ← (playable options entries).mapM (item realPath options collator tracks)
  let sorted :=
    if options.alreadySorted || options.sort = .none then items
    else Order.sort (order options.sort collator) items
  Run.log (.listed dir items.length tracks.length options.sort)
  return ⟨dir, sorted⟩

/-- The playlist of a directory. A reader that gives entries in display order has its order kept. -/
def ofDirectory (realPath : Path → Option Path) (reader : Reader) (collator : Collator)
    (options : ListingOptions) (dir : Path) : Run (Except Error Playlist) := do
  match ← reader.read dir .primary with
  | .error failure => return .error (.unreadable dir failure)
  | .ok entries =>
    let options := { options with alreadySorted := options.alreadySorted || reader.sorted }
    return .ok (← ofEntries realPath collator options dir entries)

end Playlist

end TrackFinder
