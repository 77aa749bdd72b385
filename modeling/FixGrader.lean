import FixGrader.Challenge.Basic
import FixGrader.Files
import FixGrader.Instant
import FixGrader.Json.Reader
import FixGrader.Json.Record
import FixGrader.Json.Writer
import FixGrader.Main
import FixGrader.Pattern.Notation
import FixGrader.Pattern.Search
import FixGrader.Proofs.Store.Remote
import FixGrader.Proofs.Scoring.Pass
import FixGrader.Proofs.Worker.Acceptance
import FixGrader.Proofs.Worker.Admission
import FixGrader.Proofs.Worker.Cycle
import FixGrader.Proofs.Worker.Repetition
import FixGrader.Proofs.Worker.Rescore
import FixGrader.Proofs.Worker.Shutdown
import FixGrader.Proofs.Worker.Terminal
import FixGrader.Scoring.Basic
import FixGrader.Service.Serving
import FixGrader.Settings.Validation
import FixGrader.Store.Remote
import FixGrader.Submission.Document
import FixGrader.Text.Blank
import FixGrader.Text.Utf8
import FixGrader.Toml.Reader
import FixGrader.Tool.Machine
import FixGrader.Tool.Signal
import FixGrader.Unicode.Casing
import FixGrader.Unicode.Category
import FixGrader.Unicode.Folding
import FixGrader.Unicode.Property
import FixGrader.Unicode.Script
import FixGrader.Unicode.Word
import FixGrader.Uuid
import FixGrader.Worker.Schedule
import FixGrader.Proofs.Pattern.Place
import FixGrader.Proofs.Pattern.Search
import FixGrader.Proofs.Pattern.Span
import FixGrader.Proofs.Challenge.Idiom
import FixGrader.Proofs.Challenge.BoundQuery
import FixGrader.Proofs.Challenge.Source
import FixGrader.Proofs.Challenge.Argument
import FixGrader.Proofs.Challenge.Formatted
import FixGrader.Proofs.Challenge.Padding
import FixGrader.Proofs.Challenge.Subprocess
import FixGrader.Proofs.Challenge.ShellFlag
import FixGrader.Proofs.Sandbox.Outcome
import FixGrader.Proofs.Scoring.Findings
import FixGrader.Proofs.Scoring.Cleanup
import FixGrader.Proofs.Submission.RoundTrip
import FixGrader.Proofs.Settings.Layering
import FixGrader.Proofs.Settings.Readiness
import FixGrader.Proofs.Challenge.Brackets
import FixGrader.Proofs.Tool.Machine
