import TrackFinder.Companion
import TrackFinder.Companion.Conflict
import TrackFinder.Companion.Gather
import TrackFinder.Detection
import TrackFinder.Entry
import TrackFinder.EnvFile
import TrackFinder.Error
import TrackFinder.Event
import TrackFinder.FileName
import TrackFinder.Json
import TrackFinder.Json.Value
import TrackFinder.Log.Directive
import TrackFinder.Log.Filter
import TrackFinder.Log.Line
import TrackFinder.Log.Pattern
import TrackFinder.Log.Pattern.Atom
import TrackFinder.Log.Pattern.CharClass
import TrackFinder.Log.Pattern.Flags
import TrackFinder.Main
import TrackFinder.Options
import TrackFinder.Order.Listing
import TrackFinder.Order.Text
import TrackFinder.Order.Version
import TrackFinder.Path
import TrackFinder.Path.Normal
import TrackFinder.PathFault
import TrackFinder.Playlist
import TrackFinder.Priority
import TrackFinder.Program
import TrackFinder.Proofs.Companion.Gather
import TrackFinder.Proofs.Companion.History
import TrackFinder.Proofs.Companion.Paths
import TrackFinder.Proofs.Companion.Settled
import TrackFinder.Proofs.Companion.Stem
import TrackFinder.Proofs.Companion.Verdict
import TrackFinder.Proofs.Detection.Exact
import TrackFinder.Proofs.Detection.Hidden
import TrackFinder.Proofs.Detection.Logged
import TrackFinder.Proofs.Detection.Mode
import TrackFinder.Proofs.Detection.Narrow
import TrackFinder.Proofs.Detection.Once
import TrackFinder.Proofs.Detection.Outcome
import TrackFinder.Proofs.Detection.Raise
import TrackFinder.Proofs.Detection.Rearrange
import TrackFinder.Proofs.Detection.Respelled
import TrackFinder.Proofs.Detection.Rivals
import TrackFinder.Proofs.Detection.Unreadable
import TrackFinder.Proofs.Detection.Views
import TrackFinder.Proofs.Events
import TrackFinder.Proofs.FileName
import TrackFinder.Proofs.FileName.Simplify
import TrackFinder.Proofs.FileName.Words
import TrackFinder.Proofs.Options.Tokens
import TrackFinder.Proofs.Order.Lawful
import TrackFinder.Proofs.Order.Numeral
import TrackFinder.Proofs.Order.Pieces
import TrackFinder.Proofs.Order.Preorder
import TrackFinder.Proofs.Order.Stable
import TrackFinder.Proofs.Order.Version
import TrackFinder.Proofs.Path.Canonical
import TrackFinder.Proofs.Path.Components
import TrackFinder.Proofs.Path.Ending
import TrackFinder.Proofs.Path.Join
import TrackFinder.Proofs.Path.Normal
import TrackFinder.Proofs.Path.Parent
import TrackFinder.Proofs.Playlist.Agreement
import TrackFinder.Proofs.Playlist.Arrangement
import TrackFinder.Proofs.Playlist.Hidden
import TrackFinder.Proofs.Playlist.Ignored
import TrackFinder.Proofs.Playlist.Indexed
import TrackFinder.Proofs.Playlist.Narrow
import TrackFinder.Proofs.Playlist.Outcome
import TrackFinder.Proofs.Playlist.Raise
import TrackFinder.Proofs.Playlist.Rearrange
import TrackFinder.Proofs.Priority.Decorated
import TrackFinder.Proofs.Priority.Overlap
import TrackFinder.Proofs.Reader
import TrackFinder.Proofs.Reads
import TrackFinder.Proofs.Request.Directories
import TrackFinder.Proofs.Request.Media
import TrackFinder.Proofs.Request.SearchPaths
import TrackFinder.Proofs.Scan
import TrackFinder.Proofs.Scan.Pulls
import TrackFinder.Proofs.Settings
import TrackFinder.Proofs.Text.Blank
import TrackFinder.Proofs.Text.Cut
import TrackFinder.Proofs.Text.Decimal
import TrackFinder.Proofs.Text.Occurrence
import TrackFinder.Proofs.Text.Utf8
import TrackFinder.Reader
import TrackFinder.Request
import TrackFinder.Run
import TrackFinder.Scan
import TrackFinder.Settings
import TrackFinder.Survey
import TrackFinder.Text
import TrackFinder.Text.Alphanumeric
import TrackFinder.Text.Unseen
import TrackFinder.Text.Utf8
import TrackFinder.Threshold
import TrackFinder.TrackKind
import TrackFinder.Tree
import TrackFinder.Tree.Plant
import TrackFinder.Tree.Reader
