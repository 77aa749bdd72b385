import FixGrader.Analysis.Report
import FixGrader.Settings.Basic
import FixGrader.Tool.Host
import FixGrader.Unicode.Casing

namespace FixGrader

namespace Analysis

/-- Runs a tool on a staged copy of `code`. Exit codes 0 and 1 are those of a finished analysis,
without and with findings. -/
def runTool (h : Host) (tag code : String) (seconds : UInt64) (command : Staged → Command)
    (report : String → Option (List Issue)) : Work (List Issue) := do
  let run ← Work.withStaged h tag code fun s => Work.launch h (command s) { seconds }
  match run with
  | .ok (.ok o) =>
    match o.status with
    | .exited 0 | .exited 1 => return (report o.stdout).getD []
    | _ => return []
  | _ => return []

def semgrepCommand (binary : String) (rules : List String) (file : String) : Command :=
  { program := binary
    args := ["scan", "--disable-version-check", "--quiet", "--json"] ++
      rules.flatMap (["--config", ·]) ++ [file] }

def semgrep (h : Host) (s : SemgrepSettings) (code : String) : Work (List Issue) := do
  let rules := s.rules.filter h.hasPath
  match h.locate s.binary with
  | none => return []
  | some binary =>
    if rules.isEmpty then return []
    runTool h "semgrep-" code s.seconds (fun f => semgrepCommand binary rules f.file)
      Report.semgrep?

def banditCommand (s : BanditSettings) (binary file : String) : Command :=
  { program := binary
    args := ["-r", file, "-f", "json", "-q", "--severity-level", Unicode.toUpper s.severity,
      "--confidence-level", Unicode.toUpper s.confidence] }

def bandit (h : Host) (s : BanditSettings) (code : String) : Work (List Issue) := do
  match h.locate s.binary with
  | none => return []
  | some binary =>
    runTool h "bandit-" code s.seconds (fun f => banditCommand s binary f.file) Report.bandit?

end Analysis

structure Analyzer (m : Type → Type) where
  name : String
  run : String → m (List Issue)

def AnalyzerSettings.analyzers (h : Host) (s : AnalyzerSettings) : List (Analyzer Work) :=
  (if s.semgrep.enabled then [⟨"semgrep", Analysis.semgrep h s.semgrep⟩] else []) ++
    (if s.bandit.enabled then [⟨"bandit", Analysis.bandit h s.bandit⟩] else [])

end FixGrader
