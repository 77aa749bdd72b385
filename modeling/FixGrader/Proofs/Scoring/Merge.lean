import FixGrader.Scoring.Basic
import Mathlib

namespace FixGrader

namespace Scoring

variable (p : ScorePolicy) (a : Assessment) (issues : List Issue)

theorem findings?_append_sandbox (message severity : String) :
    findings? (issues ++ [⟨sandboxTool, message, severity⟩]) = findings? issues := by
  simp [findings?]

/-- What the sandbox says of a snippet that it passes is reported, unless it says nothing. -/
def passNotes (message : String) : List Issue :=
  if message.isEmpty then [] else [⟨sandboxTool, message, "info"⟩]

theorem findings?_append_passNotes (message : String) :
    findings? (issues ++ passNotes message) = findings? issues := by
  unfold passNotes
  split
  · rw [List.append_nil]
  · exact findings?_append_sandbox issues message "info"

theorem merge_passed (message : String) :
    merge p a issues (some (.ok (.passed message))) =
      { merge p a issues none with issues := issues ++ passNotes message } := by
  calc merge p a issues (some (.ok (.passed message)))
      = conclude a a.feedback.toList (issues ++ passNotes message) := rfl
    _ = { conclude a a.feedback.toList issues with issues := issues ++ passNotes message } := by
      simp only [conclude, findings?_append_passNotes]

theorem length_passNotes (message : String) : (passNotes message).length ≤ 1 := by
  unfold passNotes
  split <;> simp

theorem info_passNotes (message : String) : ∀ i ∈ passNotes message, i.severity = "info" := by
  unfold passNotes
  split <;> simp

def lowered : Assessment :=
  { a with status := .failed, score := some (min (a.score.getD p.zero) p.ceiling) }

theorem merge_not_passed {o : SandboxOutcome} (bad : o.isPassed = false) :
    merge p a issues (some (.ok o)) =
      conclude (lowered p a) (a.feedback.toList ++ [o.message])
        (issues ++ [⟨sandboxTool, o.message, "high"⟩]) := by
  cases o with
  | passed => cases bad
  | rejected | unavailable => rfl

theorem merge_status_passed {p : ScorePolicy} {a : Assessment} {issues : List Issue}
    {outcome : Option (Except Failure SandboxOutcome)}
    (passed : (merge p a issues outcome).status = .passed) : a.status = .passed := by
  obtain _ | _ | o := outcome
  · exact passed
  · cases passed
  · cases o with
    | passed => exact passed
    | rejected | unavailable => cases passed

/-- Status and score do not depend on what analysis has found. -/
theorem merge_grade (others : List Issue) (outcome : Option (Except Failure SandboxOutcome)) :
    (merge p a issues outcome).status = (merge p a others outcome).status ∧
      (merge p a issues outcome).score = (merge p a others outcome).score := by
  obtain _ | _ | o := outcome
  · exact ⟨rfl, rfl⟩
  · exact ⟨rfl, rfl⟩
  · cases o <;> exact ⟨rfl, rfl⟩

end Scoring

namespace ScoringService

variable {σ ρ : Type}

def unsandboxed (s : ScoringService (StateM σ)) : ScoringService (StateM σ) :=
  { s with sandbox := none }

def found (s : ScoringService (StateM σ)) (code : String) (st : σ) : List Issue :=
  ((analyze code s.analyzers).run st).1

def analyzed (s : ScoringService (StateM σ)) (code : String) (st : σ) : σ :=
  ((analyze code s.analyzers).run st).2

/-- What the sandbox says in a pass from `st` on, if there is one. -/
def outcome? (s : ScoringService (StateM σ)) (code : String) (st : σ) :
    Option (Except Failure SandboxOutcome) :=
  s.sandbox.map fun check => ((check code).run (s.analyzed code st)).1

def result (s : ScoringService (StateM σ)) (slug code : String) (st : σ) : Assessment :=
  ((s.score slug code).run st).1

theorem result_eq_merge (s : ScoringService (StateM σ)) (slug code : String) (st : σ) :
    s.result slug code st =
      Scoring.merge s.policy (s.policy.evaluate slug code) (s.found code st)
        (s.outcome? code st) := by
  obtain ⟨analyzers, sandbox, policy⟩ := s
  cases sandbox <;> rfl

theorem result_unsandboxed (s : ScoringService (StateM σ)) (slug code : String) (st : σ) :
    s.unsandboxed.result slug code st =
      Scoring.merge s.policy (s.policy.evaluate slug code) (s.found code st) none :=
  s.unsandboxed.result_eq_merge slug code st

/-- A sandbox that passes a snippet adds at most a note. One that does not pass it makes the result
a failure with at most the points of before and at most those of the ceiling, and a fault of its
makes it an error without points. So nothing passes that would not pass without a sandbox. What the
analyzers are does not matter for status and score. -/
theorem sandbox_only_lowers (s : ScoringService (StateM σ)) (slug code : String) (st : σ) :
    (∀ message, s.outcome? code st = some (.ok (.passed message)) →
      (s.result slug code st).status = (s.unsandboxed.result slug code st).status ∧
      (s.result slug code st).score = (s.unsandboxed.result slug code st).score ∧
      (s.result slug code st).feedback = (s.unsandboxed.result slug code st).feedback ∧
      ∃ notes, (s.result slug code st).issues =
          (s.unsandboxed.result slug code st).issues ++ notes ∧
        notes.length ≤ 1 ∧ ∀ i ∈ notes, i.severity = "info") ∧
    (∀ o, s.outcome? code st = some (.ok o) → o.isPassed = false →
      (s.result slug code st).status = .failed ∧
      (s.result slug code st).score = some (min
        ((s.unsandboxed.result slug code st).score.getD s.policy.zero) s.policy.ceiling) ∧
      ∀ n ∈ (s.result slug code st).score, n ≤ s.policy.ceiling ∧
        ∀ k ∈ (s.unsandboxed.result slug code st).score, n ≤ k) ∧
    (∀ failure, s.outcome? code st = some (.error failure) →
      (s.result slug code st).status = .error ∧ (s.result slug code st).score = none) ∧
    ((s.result slug code st).status = .passed →
      (s.unsandboxed.result slug code st).status = .passed) ∧
    ∀ (t : ScoringService (StateM ρ)) (st' : ρ), t.policy = s.policy →
      t.outcome? code st' = s.outcome? code st →
      (t.result slug code st').status = (s.result slug code st).status ∧
        (t.result slug code st').score = (s.result slug code st).score := by
  rw [result_unsandboxed, result_eq_merge]
  refine ⟨fun message passed => ?_, fun o answered bad => ?_, fun failure broke => ?_,
    fun passed => ?_, fun t st' policy same => ?_⟩
  · rw [passed, Scoring.merge_passed]
    exact ⟨rfl, rfl, rfl, _, rfl, Scoring.length_passNotes message, Scoring.info_passNotes message⟩
  · rw [answered, Scoring.merge_not_passed _ _ _ bad]
    refine ⟨rfl, rfl, fun n hn => ?_⟩
    obtain rfl := Option.some.inj hn
    refine ⟨Std.min_le_right, fun k hk => ?_⟩
    have points : (s.policy.evaluate slug code).score.getD s.policy.zero = k := by
      rw [show (s.policy.evaluate slug code).score = some k from hk, Option.getD_some]
    exact points ▸ Std.min_le_left
  · rw [broke]
    exact ⟨rfl, rfl⟩
  · exact (Scoring.merge_status_passed passed : (s.policy.evaluate slug code).status = .passed)
  · rw [result_eq_merge, policy, same]
    exact Scoring.merge_grade _ _ _ _ _

def safeQuery : String := "db.execute(\"SELECT ?\", (n,))\n"

/-- Analysis counts the passes, and the sandbox rejects all snippets. -/
def strictService : ScoringService (StateM Nat) where
  analyzers := [⟨"count", fun _ n => ([⟨"count", s!"pass {n}", "info"⟩], n + 1)⟩]
  sandbox := some fun _ n => (.ok (.rejected "no"), n)
  policy := {}

theorem sandbox_only_lowers_rejected :
    strictService.outcome? safeQuery 0 = some (.ok (.rejected "no")) ∧
      (strictService.unsandboxed.result "sqli_001" safeQuery 0).status = .passed ∧
      (strictService.result "sqli_001" safeQuery 0).status = .failed ∧
      (strictService.result "sqli_001" safeQuery 0).score = some 40 ∧
      ({ strictService with analyzers := [] }.result "sqli_001" safeQuery 7).score = some 40 := by
  have answered : strictService.outcome? safeQuery 0 = some (.ok (.rejected "no")) := rfl
  have before : (strictService.unsandboxed.result "sqli_001" safeQuery 0).status = .passed ∧
      (strictService.unsandboxed.result "sqli_001" safeQuery 0).score = some 100 := by
    constructor <;> cbv
  obtain ⟨_, lowers, _, _, others⟩ := sandbox_only_lowers (ρ := Nat) strictService "sqli_001"
    safeQuery 0
  obtain ⟨failed, points, _⟩ := lowers _ answered rfl
  have points : (strictService.result "sqli_001" safeQuery 0).score = some 40 := by
    rw [points, before.2]
    rfl
  exact ⟨answered, before.1, failed, points,
    (others { strictService with analyzers := [] } 7 rfl rfl).2.trans points⟩

end ScoringService

end FixGrader
