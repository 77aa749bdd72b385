import FixGrader.Proofs.Analysis.Scan
import FixGrader.Proofs.Scoring.Merge
import FixGrader.Proofs.Scoring.Pass

namespace FixGrader

/-- What is said about a snippet by the rule of its challenge, or in place of a rule. -/
inductive RuleText (slug code : String) : String → Prop
  | known {c : Challenge} (named : c.slug = slug) : RuleText slug code (c.rule.judge code).feedback
  | unknown (unknown : ¬Challenge.Known slug) :
      RuleText slug code s!"No scoring rule exists yet for challenge '{slug}'."

inductive Noted : Option (Except Failure SandboxOutcome) → Option Issue → Prop
  | absent : Noted none none
  | silent : Noted (some (.ok (.passed ""))) none
  | passed {message : String} (worded : message ≠ "") :
      Noted (some (.ok (.passed message))) (some ⟨Scoring.sandboxTool, message, "info"⟩)
  | refused {o : SandboxOutcome} (bad : o.isPassed = false) :
      Noted (some (.ok o)) (some ⟨Scoring.sandboxTool, o.message, "high"⟩)
  | broken (f : Failure) : Noted (some (.error f)) (some ⟨Scoring.sandboxTool, f.message, "error"⟩)

/-- The text of the sandbox in the feedback, if any. A fault has no place in it. -/
inductive Refusal : Option (Except Failure SandboxOutcome) → Option String → Prop
  | absent : Refusal none none
  | passed (message : String) : Refusal (some (.ok (.passed message))) none
  | refused {o : SandboxOutcome} (bad : o.isPassed = false) :
      Refusal (some (.ok o)) (some o.message)

inductive Listed : List Issue → Option String → Prop
  | nothing : Listed [] none
  | bullets {found : List Issue} (some_ : found ≠ []) : Listed found
      (some ("Static analysis findings:\n" ++ "\n".intercalate (found.map Scoring.finding)))

/-- Nothing that the analyzers `found` in turn and the sandbox said is lost in `r`. -/
structure Complete (found : List (List Issue)) (outcome : Option (Except Failure SandboxOutcome))
    (ruleText : String) (r : Assessment) : Prop where
  issues : ∃ note : Option Issue, Noted outcome note ∧ r.issues = found.flatten ++ note.toList
  quiet_iff : r.issues = [] ↔
    (∀ issues ∈ found, issues = []) ∧ (outcome = none ∨ outcome = some (.ok (.passed "")))
  feedback : (∀ f, outcome ≠ some (.error f)) →
    ∃ refusal list : Option String, Refusal outcome refusal ∧ Listed found.flatten list ∧
      r.feedback = some ("\n\n".intercalate (ruleText :: (refusal.toList ++ list.toList)))

theorem SandboxOutcome.exists_of_isPassed {o : SandboxOutcome} (passed : o.isPassed = true) :
    ∃ message, o = .passed message := by
  cases o with
  | passed message => exact ⟨message, rfl⟩
  | rejected | unavailable => cases passed

theorem Noted.eq_none_iff {outcome : Option (Except Failure SandboxOutcome)} {note : Option Issue}
    (noted : Noted outcome note) :
    note = none ↔ outcome = none ∨ outcome = some (.ok (.passed "")) := by
  cases noted with
  | absent | silent => simp
  | passed worded => simp [worded]
  | refused bad =>
    simp only [reduceCtorEq, Option.some.injEq, Except.ok.injEq, false_or, false_iff]
    rintro rfl
    cases bad
  | broken f => simp

theorem ScorePolicy.ruleText (p : ScorePolicy) (slug code : String) :
    ∃ text, RuleText slug code text ∧ (p.evaluate slug code).feedback = some text := by
  by_cases known : Challenge.Known slug
  · obtain ⟨c, rfl⟩ := known
    refine ⟨_, .known rfl, ?_⟩
    rw [evaluate_slug, grade]
    cases (c.rule.judge code).band <;> rfl
  · refine ⟨_, .unknown known, ?_⟩
    rw [evaluate, Challenge.ofSlug?_eq_none known]

namespace Scoring

theorem findings?_of_other {issues : List Issue} (others : ∀ i ∈ issues, i.tool ≠ sandboxTool) :
    Listed issues (findings? issues) := by
  have all : issues.filter (·.tool != sandboxTool) = issues :=
    List.filter_eq_self.mpr fun i mem => bne_iff_ne.mpr (others i mem)
  unfold findings?
  rw [all]
  cases issues with
  | nil => exact .nothing
  | cons i rest => exact .bullets (List.cons_ne_nil i rest)

theorem noted_merge (p : ScorePolicy) (a : Assessment) (issues : List Issue)
    (outcome : Option (Except Failure SandboxOutcome)) :
    ∃ note, Noted outcome note ∧ (merge p a issues outcome).issues = issues ++ note.toList := by
  obtain _ | f | o := outcome
  · exact ⟨none, .absent, (List.append_nil issues).symm⟩
  · exact ⟨_, .broken f, rfl⟩
  · cases passed : o.isPassed with
    | false =>
      rw [merge_not_passed p a issues passed]
      exact ⟨_, .refused passed, rfl⟩
    | true =>
      obtain ⟨message, rfl⟩ := SandboxOutcome.exists_of_isPassed passed
      rw [merge_passed]
      by_cases worded : message = ""
      · subst worded
        exact ⟨none, .silent, rfl⟩
      · refine ⟨_, .passed worded, ?_⟩
        simp [passNotes, worded]

theorem feedback_merge (p : ScorePolicy) {a : Assessment} {text : String}
    (given : a.feedback = some text) (issues : List Issue)
    {outcome : Option (Except Failure SandboxOutcome)} (works : ∀ f, outcome ≠ some (.error f)) :
    ∃ refusal, Refusal outcome refusal ∧ (merge p a issues outcome).feedback =
      some ("\n\n".intercalate (text :: (refusal.toList ++ (findings? issues).toList))) := by
  obtain _ | f | o := outcome
  · refine ⟨none, .absent, ?_⟩
    simp [merge, conclude, given, joinNotes]
  · exact absurd rfl (works f)
  · cases passed : o.isPassed with
    | false =>
      refine ⟨_, .refused passed, ?_⟩
      rw [merge_not_passed p a issues passed]
      simp [conclude, findings?_append_sandbox, given, joinNotes]
    | true =>
      obtain ⟨message, rfl⟩ := SandboxOutcome.exists_of_isPassed passed
      refine ⟨none, .passed message, ?_⟩
      rw [merge_passed]
      simp [merge, conclude, given, joinNotes]

end Scoring

namespace ScoringService

variable {σ : Type}

def reports (code : String) : List (Analyzer (StateM σ)) → σ → List (List Issue)
  | [], _ => []
  | a :: rest, st => ((a.run code).run st).1 :: reports code rest ((a.run code).run st).2

theorem found_eq_flatten (code : String) (analyzers : List (Analyzer (StateM σ))) (st : σ) :
    ((analyze code analyzers).run st).1 = (reports code analyzers st).flatten := by
  induction analyzers generalizing st with
  | nil => rfl
  | cons a rest ih => exact congrArg (((a.run code).run st).1 ++ ·) (ih _)

end ScoringService

def Analyzer.IsOther {σ : Type} (a : Analyzer (StateM σ)) : Prop :=
  ∀ code st, ∀ i ∈ ((a.run code).run st).1, i.tool ≠ Scoring.sandboxTool

theorem AnalyzerSettings.isOther_of_mem (h : Host) (s : AnalyzerSettings) {a : Analyzer Work}
    (mem : a ∈ s.analyzers h) : a.IsOther := by
  rw [analyzers_eq] at mem
  obtain ⟨adapter, _, rfl⟩ := List.mem_map.mp mem
  intro code t i reported
  rw [Adapter.tool_of_mem reported]
  cases adapter <;> simp [Adapter.name, Scoring.sandboxTool]

namespace ScoringService

variable {σ : Type}

theorem isOther_of_reports {analyzers : List (Analyzer (StateM σ))}
    (others : ∀ a ∈ analyzers, a.IsOther) (code : String) (st : σ) :
    ∀ i ∈ (reports code analyzers st).flatten, i.tool ≠ Scoring.sandboxTool := by
  induction analyzers generalizing st with
  | nil => simp [reports]
  | cons a rest ih =>
    intro i mem
    rw [reports, List.flatten_cons, List.mem_append] at mem
    rcases mem with mine | later
    · exact others a List.mem_cons_self code st i mine
    · exact ih (fun b mem => others b (List.mem_cons_of_mem a mem)) _ i later

/-- The analyzers of all settings are other ones than the sandbox, and with such analyzers nothing
is lost in the result, whatever they report and whatever the sandbox says. -/
theorem complete_result :
    (∀ (h : Host) (s : AnalyzerSettings), ∀ a ∈ s.analyzers h, a.IsOther) ∧
    ∀ (s : ScoringService (StateM σ)) (slug code : String) (st : σ),
      (∀ a ∈ s.analyzers, a.IsOther) → ∃ text, RuleText slug code text ∧
        Complete (reports code s.analyzers st) (s.outcome? code st) text
          (s.result slug code st) := by
  refine ⟨fun h s a mem => s.isOther_of_mem h mem, fun s slug code st others => ?_⟩
  obtain ⟨text, rule, given⟩ := s.policy.ruleText slug code
  have found : s.found code st = (reports code s.analyzers st).flatten :=
    found_eq_flatten code s.analyzers st
  have listed := Scoring.findings?_of_other (isOther_of_reports others code st)
  obtain ⟨note, noted, issues⟩ := Scoring.noted_merge s.policy (s.policy.evaluate slug code)
    (reports code s.analyzers st).flatten (s.outcome? code st)
  refine ⟨text, rule, ?_⟩
  rw [result_eq_merge, found]
  refine ⟨⟨note, noted, issues⟩, ?_, fun works => ?_⟩
  · rw [issues, List.append_eq_nil_iff, List.flatten_eq_nil_iff, Option.toList_eq_nil_iff,
      noted.eq_none_iff]
  · obtain ⟨refusal, refuses, feedback⟩ := Scoring.feedback_merge s.policy given
      (reports code s.analyzers st).flatten works
    exact ⟨refusal, _, refuses, listed, feedback⟩

def twoAnalyzers : ScoringService (StateM Nat) where
  analyzers := [⟨"lint", fun _ n => ([⟨"lint", "tabs", "low"⟩, ⟨"lint", "tabs", "low"⟩], n + 1)⟩,
    ⟨"count", fun _ n => ([⟨"count", s!"pass {n}", "info"⟩], n)⟩]
  sandbox := some fun _ n => (.ok (.rejected "no"), n)
  policy := {}

theorem isOther_twoAnalyzers : ∀ a ∈ twoAnalyzers.analyzers, a.IsOther := by
  intro a mem code n i reported
  simp only [twoAnalyzers, List.mem_cons, List.not_mem_nil, or_false] at mem
  rcases mem with rfl | rfl
  · simp only [StateT.run, List.mem_cons, List.not_mem_nil, or_false, or_self] at reported
    simp [reported, Scoring.sandboxTool]
  · simp only [StateT.run, List.mem_singleton] at reported
    simp [reported, Scoring.sandboxTool]

theorem complete_result_rejected :
    (twoAnalyzers.result "none" "x" 0).issues =
        [⟨"lint", "tabs", "low"⟩, ⟨"lint", "tabs", "low"⟩, ⟨"count", "pass 1", "info"⟩,
          ⟨"sandbox", "no", "high"⟩] ∧
      (twoAnalyzers.result "none" "x" 0).feedback = some
        ("No scoring rule exists yet for challenge 'none'.\n\nno\n\nStatic analysis findings:\n" ++
          "- [lint/low] tabs\n- [lint/low] tabs\n- [count/info] pass 1") := by
  obtain ⟨text, rule, complete⟩ :=
    complete_result.2 twoAnalyzers "none" "x" 0 isOther_twoAnalyzers
  have answered : twoAnalyzers.outcome? "x" 0 = some (.ok (.rejected "no")) := rfl
  rw [answered] at complete
  obtain ⟨note, noted, issues⟩ := complete.issues
  obtain ⟨refusal, list, refuses, listed, feedback⟩ := complete.feedback (by simp)
  cases noted
  cases refuses
  rw [issues, feedback]
  cases rule with
  | known named => cases ‹Challenge› <;> simp [Challenge.slug] at named
  | unknown =>
    refine ⟨rfl, ?_⟩
    cases listed
    decide +kernel

end ScoringService

end FixGrader
