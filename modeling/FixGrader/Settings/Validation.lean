import FixGrader.Sandbox.DenyList
import FixGrader.Settings.Document
import FixGrader.Settings.Override

namespace FixGrader

namespace Settings

/-- The conditions on numbers, in the order in which they are checked, with what is said when one
does not hold. -/
def conditions (s : Settings) : List (Bool × String × ValueFault) :=
  let p := s.scoring
  [(decide (p.full ≤ 100), "scoring.full_score", .aboveHundred),
   (decide (p.mixed < p.full ∧ p.zero < p.mixed), "scoring", .bandsNotDescending),
   (decide (p.ceiling ≤ 100), "scoring.sandbox_failure_ceiling", .aboveHundred),
   (s.analyzers.semgrep.seconds != 0, "analyzers.semgrep.timeout_secs", .zeroTime),
   (s.analyzers.bandit.seconds != 0, "analyzers.bandit.timeout_secs", .zeroTime),
   (s.sandbox.seconds != 0, "sandbox.timeout_secs", .zeroTime),
   (s.stopSeconds != 0, "worker.stop_timeout_secs", .zeroTime)]

def validate (s : Settings) : Except SettingsError Unit :=
  match s.conditions.find? (!·.1) with
  | some (_, key, fault) => .error (.invalid key fault)
  | none =>
    match DenyList.compile (s.sandbox.denyPatterns.getD []) with
    | .error text => .error (.badPattern text)
    | .ok _ => .ok ()

def defaultPath : String := "./files/scoring.toml"

/-- The file that `SCORING_CONFIG` names has to be there; the one at the default path need not.
`readFile` gives the text of a file. -/
def load (readFile : String → Except FileFault String) (env : Environment) :
    Except SettingsError Settings := do
  let document ← match env.lookup "SCORING_CONFIG" with
    | some path => (readFile path).mapError (.unreadable path) |>.map some
    | none =>
      match readFile defaultPath with
      | .ok text => pure (some text)
      | .error .missing | .error .notDirectory => pure none
      | .error fault => .error (.unreadable defaultPath fault)
  let s ← (document.map ofToml).getD (.ok {})
  let s ← s.override env
  s.validate
  return s

end Settings

end FixGrader
