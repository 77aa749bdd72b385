import FixGrader.Challenge.Basic
import FixGrader.Settings.Basic
import FixGrader.Submission.Basic

namespace FixGrader

namespace ScorePolicy

def grade (p : ScorePolicy) (v : Verdict) : Assessment :=
  match v.band with
  | .full => .graded .passed p.full v.feedback
  | .mixed => .graded .failed p.mixed v.feedback
  | .zero => .graded .failed p.zero v.feedback

/-- A challenge without a rule stays pending. -/
def evaluate (p : ScorePolicy) (slug code : String) : Assessment :=
  match Challenge.ofSlug? slug with
  | some c => p.grade (c.rule.judge code)
  | none =>
    { status := .pending
      feedback := some s!"No scoring rule exists yet for challenge '{slug}'." }

end ScorePolicy

end FixGrader
