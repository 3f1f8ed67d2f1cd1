import ReviewDiff.Text.Utf8
import ReviewDiff.Text.Line
import ReviewDiff.Text.Blank
import ReviewDiff.Text.Quoted
import ReviewDiff.Decimal.Shortest
import ReviewDiff.Decimal.Fixed
import ReviewDiff.Digest.Sha1
import ReviewDiff.Json.Reader
import ReviewDiff.Json.Writer
import ReviewDiff.Diff.Script
import ReviewDiff.Diff.Hunk
import ReviewDiff.Diff.Stats
import ReviewDiff.Diff.Mapping
import ReviewDiff.Path.RepoPath
import ReviewDiff.Files.Tree
import ReviewDiff.Settings.Stored
import ReviewDiff.Log.Journal
import ReviewDiff.Repository.Content
import ReviewDiff.Cache.Callers
import ReviewDiff.Repository.Memory
import ReviewDiff.Service.Compare
import ReviewDiff.Service.Form
import ReviewDiff.Git.Record
import ReviewDiff.Git.Store
import ReviewDiff.Yaml.Writer
import ReviewDiff.Command.Line
import ReviewDiff.Main
import ReviewDiff.Proofs.Diff.Mapping
import ReviewDiff.Proofs.Diff.Coordinates
import ReviewDiff.Proofs.Diff.Counts
import ReviewDiff.Proofs.Diff.CommonEnds
import ReviewDiff.Proofs.Path.Inside
import ReviewDiff.Proofs.Path.Canonical
import ReviewDiff.Proofs.Cache.Calls
import ReviewDiff.Proofs.Cache.Storage
import ReviewDiff.Proofs.Cache.Transparency
import ReviewDiff.Proofs.Cache.Waiters
import ReviewDiff.Proofs.Cache.Eviction
import ReviewDiff.Proofs.Cache.Failure
import ReviewDiff.Proofs.Repository.Sides
import ReviewDiff.Proofs.Service.Transparency
import ReviewDiff.Proofs.Path.Way
import ReviewDiff.Proofs.Repository.Watched
import ReviewDiff.Proofs.Service.Snapshot
import ReviewDiff.Proofs.Service.Watched
import ReviewDiff.Proofs.Text.Encoding
import ReviewDiff.Proofs.Text.Lines
import ReviewDiff.Proofs.Text.WellFormed
import ReviewDiff.Proofs.Service.LineEndings
import ReviewDiff.Proofs.Service.Verdict
import ReviewDiff.Proofs.Settings.Stored
import ReviewDiff.Proofs.Cache.Reservation
import ReviewDiff.Proofs.Diff.Retrace
import ReviewDiff.Proofs.Git.Boundary
import ReviewDiff.Proofs.Settings.Atomic
