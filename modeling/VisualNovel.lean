import VisualNovel.Main
import VisualNovel.Repository.Memory
import VisualNovel.Proofs.Playback.Ending
import VisualNovel.Proofs.Playback.Telling
import VisualNovel.Proofs.Session.Resolution
import VisualNovel.Proofs.Playback.Dispatched
import VisualNovel.Proofs.Playback.Waiting
import VisualNovel.Proofs.Session.Resuming
import VisualNovel.Proofs.Json.Lexing
import VisualNovel.Proofs.Json.Numerals
import VisualNovel.Proofs.Json.Tree
import VisualNovel.Proofs.Json.Printed
import VisualNovel.Proofs.Json.Coherent
import VisualNovel.Proofs.Json.ReadBack
import VisualNovel.Proofs.Json.Assembly
import VisualNovel.Proofs.Json.Restored
import VisualNovel.Proofs.Storage.Kept
import VisualNovel.Proofs.Storage.RoundTrip
import VisualNovel.Proofs.Decimal.Range
import VisualNovel.Proofs.Json.Canonical
import VisualNovel.Proofs.Json.Plain
import VisualNovel.Proofs.Json.Ensured
import VisualNovel.Proofs.Storage.Loaded
import VisualNovel.Proofs.Playback.Display
import VisualNovel.Proofs.Lint.Flow
import VisualNovel.Proofs.Playback.Unreachable
import VisualNovel.Proofs.Session.Viewing
import VisualNovel.Proofs.Session.Orphans
import VisualNovel.Proofs.Playback.Orderly
import VisualNovel.Proofs.Session.Patience
import VisualNovel.Proofs.Session.Scenes
import VisualNovel.Proofs.Session.Sounds
import VisualNovel.Proofs.Repository.Apart
import VisualNovel.Proofs.Playback.Observed
import VisualNovel.Proofs.Session.Headless
import VisualNovel.Proofs.Session.Revealing
import VisualNovel.Proofs.Session.Animation
import VisualNovel.Proofs.Session.AtOnce
import VisualNovel.Proofs.View.Batches
import VisualNovel.Proofs.Playback.Locked
import VisualNovel.Proofs.Dump.Reading
import VisualNovel.Proofs.Lint.Reachability
import VisualNovel.Proofs.Gate.Bounds
import VisualNovel.Proofs.Session.Departures
import VisualNovel.Proofs.Playback.Skipped
import VisualNovel.Proofs.Json.Spelled
import VisualNovel.Proofs.Playback.UnknownEvents
import VisualNovel.Proofs.Json.Rearranged
import VisualNovel.Proofs.Storage.Tolerant
import VisualNovel.Proofs.Storage.Defaults
import VisualNovel.Proofs.Gate.Placement
import VisualNovel.Proofs.Repository.Listed
import VisualNovel.Proofs.Session.Menus
import VisualNovel.Proofs.Session.Refusals
