import FixGrader.Json.Reader
import FixGrader.Json.Record
import FixGrader.Submission.Basic
import FixGrader.Text.Blank

namespace FixGrader

namespace Report

/-- Blank output stands for an empty report. -/
def parse? (stdout : String) : Option Json :=
  if Text.isBlankText stdout then some (.object []) else Json.parse? stdout

def results? (entry : Json → Option Issue) (stdout : String) : Option (List Issue) := do
  let fields ← (Json.Shape.mk ["results"] 0).fields? (← parse? stdout)
  fields.getD? "results" [] (Json.listOf? entry)

def semgrepFinding? (j : Json) : Option Issue := do
  let fields ← (Json.Shape.mk ["extra"] 0).fields? j
  fields.getD? "extra" (issue none none) fun extra => do
    let fields ← (Json.Shape.mk ["message", "severity"] 2).fields? extra
    return issue (← fields.find? "message" Json.str?) (← fields.find? "severity" Json.str?)
where
  issue (message severity : Option String) : Issue :=
    ⟨"semgrep", message.getD "Semgrep rule triggered.", severity.getD "info"⟩

def banditFinding? (j : Json) : Option Issue := do
  let fields ← (Json.Shape.mk ["issue_text", "issue_severity"] 2).fields? j
  let text ← fields.find? "issue_text" Json.str?
  let severity ← fields.find? "issue_severity" Json.str?
  return ⟨"bandit", text.getD "Bandit security issue detected.", severity.getD "MEDIUM"⟩

def semgrep? (stdout : String) : Option (List Issue) := results? semgrepFinding? stdout

def bandit? (stdout : String) : Option (List Issue) := results? banditFinding? stdout

end Report

end FixGrader
