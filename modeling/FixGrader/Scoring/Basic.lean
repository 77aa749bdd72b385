import FixGrader.Analysis.Basic
import FixGrader.Sandbox.Check
import FixGrader.Scoring.Grading

namespace FixGrader

namespace Scoring

def sandboxTool : String := "sandbox"

def finding (i : Issue) : String := s!"- [{i.tool}/{i.severity}] {i.message}"

/-- A list of the issues that do not come from the sandbox, if there are any. -/
def findings? (issues : List Issue) : Option String :=
  match issues.filter (·.tool != sandboxTool) with
  | [] => none
  | found => some ("Static analysis findings:\n" ++ "\n".intercalate (found.map finding))

def joinNotes (notes : List String) : Option String :=
  if notes.isEmpty then none else some ("\n\n".intercalate notes)

def conclude (a : Assessment) (notes : List String) (issues : List Issue) : Assessment :=
  { a with feedback := joinNotes (notes ++ (findings? issues).toList), issues }

/-- What the sandbox makes of a graded snippet in which analysis found `issues`. -/
def merge (p : ScorePolicy) (a : Assessment) (issues : List Issue) :
    Option (Except Failure SandboxOutcome) → Assessment
  | none => conclude a a.feedback.toList issues
  | some (.ok (.passed message)) =>
    let note := if message.isEmpty then [] else [⟨sandboxTool, message, "info"⟩]
    conclude a a.feedback.toList (issues ++ note)
  | some (.ok (.rejected message)) | some (.ok (.unavailable message)) =>
    let lowered := { a with status := .failed, score := some (min (a.score.getD p.zero) p.ceiling) }
    conclude lowered (a.feedback.toList ++ [message]) (issues ++ [⟨sandboxTool, message, "high"⟩])
  | some (.error failure) =>
    { status := .error
      score := none
      feedback := some s!"Sandbox execution error: {failure.message}"
      issues := issues ++ [⟨sandboxTool, failure.message, "error"⟩] }

end Scoring

/-- All that takes part in a scoring pass. -/
structure ScoringService (m : Type → Type) where
  analyzers : List (Analyzer m)
  sandbox : Option (String → m (Except Failure SandboxOutcome))
  policy : ScorePolicy

namespace ScoringService

variable {m : Type → Type} [Monad m]

def analyze (code : String) : List (Analyzer m) → m (List Issue)
  | [] => pure []
  | a :: rest => do
    let found ← a.run code
    let others ← analyze code rest
    return found ++ others

def score (s : ScoringService m) (slug code : String) : m Assessment := do
  let issues ← analyze code s.analyzers
  let graded := s.policy.evaluate slug code
  match s.sandbox with
  | none => return Scoring.merge s.policy graded issues none
  | some check =>
    let outcome ← check code
    return Scoring.merge s.policy graded issues (some outcome)

/-- The service that the settings describe, or the first denied pattern that cannot be read. -/
def ofSettings (h : Host) (s : Settings) : Except String (ScoringService Work) := do
  let sandbox ← Sandbox.ofSettings s.sandbox
  return ⟨s.analyzers.analyzers h, sandbox.map (Sandbox.run h), s.scoring⟩

end ScoringService

end FixGrader
