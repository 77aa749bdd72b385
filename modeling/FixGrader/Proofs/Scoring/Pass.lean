import FixGrader.Proofs.Sandbox.Check
import FixGrader.Proofs.Scoring.Merge
import FixGrader.Proofs.Settings.Validity

namespace FixGrader

namespace Challenge

def Known (slug : String) : Prop := ∃ c : Challenge, c.slug = slug

def Solved (slug code : String) : Prop :=
  ∃ c : Challenge, c.slug = slug ∧ c.rule.safe code = true ∧ c.rule.risky code = false

theorem slug_injective {c d : Challenge} (same : c.slug = d.slug) : c = d := by
  have hc := ofSlug?_slug c
  rw [same, ofSlug?_slug] at hc
  exact (Option.some.inj hc).symm

theorem ofSlug?_eq_none {slug : String} (unknown : ¬Known slug) : ofSlug? slug = none := by
  rw [ofSlug?, List.find?_eq_none]
  intro c _ same
  exact unknown ⟨c, eq_of_beq same⟩

end Challenge

theorem Rule.band_ne_full {r : Rule} {code : String} (risky : r.risky code = true) :
    (r.judge code).band ≠ .full := by
  intro full
  have clean := (Rule.judge_band_full_iff.mp full).2
  rw [risky] at clean
  cases clean

open Challenge (Known Solved)

namespace ScorePolicy

/-- How the rule of a challenge grades a snippet. -/
inductive Evaluates (p : ScorePolicy) (slug code : String) : Status → Option UInt32 → Prop
  | solved (solved : Solved slug code) : Evaluates p slug code .passed (some p.full)
  | unsolved {n : UInt32} (known : Known slug) (unsolved : ¬Solved slug code)
      (band : n = p.mixed ∨ n = p.zero) : Evaluates p slug code .failed (some n)
  | unknown (unknown : ¬Known slug) : Evaluates p slug code .pending none

theorem evaluates (p : ScorePolicy) (slug code : String) :
    Evaluates p slug code (p.evaluate slug code).status (p.evaluate slug code).score := by
  by_cases known : Known slug
  · obtain ⟨c, rfl⟩ := known
    have solved_iff : Solved c.slug code ↔ (c.rule.judge code).band = .full := by
      rw [Rule.judge_band_full_iff]
      constructor
      · rintro ⟨d, same, signals⟩
        exact Challenge.slug_injective same ▸ signals
      · exact fun signals => ⟨c, rfl, signals⟩
    simp only [evaluate, Challenge.ofSlug?_slug, grade]
    cases band : (c.rule.judge code).band with
    | full => exact .solved (solved_iff.mpr band)
    | mixed =>
      refine .unsolved ⟨c, rfl⟩ (fun solved => ?_) (.inl rfl)
      cases band.symm.trans (solved_iff.mp solved)
    | zero =>
      refine .unsolved ⟨c, rfl⟩ (fun solved => ?_) (.inr rfl)
      cases band.symm.trans (solved_iff.mp solved)
  · simp only [evaluate, Challenge.ofSlug?_eq_none known]
    exact .unknown known

theorem evaluate_slug (p : ScorePolicy) (c : Challenge) (code : String) :
    p.evaluate c.slug code = p.grade (c.rule.judge code) := by
  rw [evaluate, Challenge.ofSlug?_slug]

theorem not_passed_of_risky (p : ScorePolicy) {c : Challenge} {code : String}
    (risky : c.rule.risky code = true) : (p.evaluate c.slug code).status ≠ .passed := by
  rw [evaluate_slug, grade, Rule.judge, risky]
  cases c.rule.safe code <;> simp [Verdict.ofSignals, Assessment.graded]

end ScorePolicy

namespace Settings.Valid

variable {s : Settings} (valid : s.Valid)

include valid

theorem band_le {n : UInt32} (band : n = s.scoring.mixed ∨ n = s.scoring.zero) : n ≤ 100 := by
  have mixed : s.scoring.mixed ≤ 100 := Std.le_trans (Std.le_of_lt valid.mixed_lt) valid.full_le
  obtain rfl | rfl := band
  · exact mixed
  · exact Std.le_trans (Std.le_of_lt valid.zero_lt) mixed

end Settings.Valid

namespace Scoring

variable (h : Host) (sandbox : Option Sandbox) (code : String) (t : Trace)

def Cleared : Prop := ∀ b ∈ sandbox, b.Clears h code t

def Unstaged : Prop := ∃ b ∈ sandbox, b.CannotStage h code t

def answer? : Option (Except Failure SandboxOutcome) :=
  sandbox.map fun b => ((b.run h code).run t).1

variable {h sandbox code t}

/-- What becomes of the status and the points of a snippet in the sandbox. -/
inductive Merges (h : Host) (sandbox : Option Sandbox) (code : String) (t : Trace)
    (p : ScorePolicy) (a : Assessment) : Status → Option UInt32 → Prop
  | cleared (cleared : Cleared h sandbox code t) (staged : ¬Unstaged h sandbox code t) :
      Merges h sandbox code t p a a.status a.score
  | unstaged (bad : ¬Cleared h sandbox code t) (unstaged : Unstaged h sandbox code t) :
      Merges h sandbox code t p a .error none
  | lowered {n : UInt32} (bad : ¬Cleared h sandbox code t) (staged : ¬Unstaged h sandbox code t)
      (capped : n ≤ p.ceiling) : Merges h sandbox code t p a .failed (some n)

theorem merges (p : ScorePolicy) (a : Assessment) (issues : List Issue) :
    let merged := merge p a issues (answer? h sandbox code t)
    Merges h sandbox code t p a merged.status merged.score := by
  cases sandbox with
  | none => exact .cleared (by simp [Cleared]) (by simp [Unstaged])
  | some b =>
    have cleared_iff : Cleared h (some b) code t ↔ b.Clears h code t := by simp [Cleared]
    have unstaged_iff : Unstaged h (some b) code t ↔ b.CannotStage h code t := by simp [Unstaged]
    have passes := b.run_isPass_iff h code t
    have breaks := b.run_isError_iff h code t
    rw [← cleared_iff] at passes
    rw [← unstaged_iff] at breaks
    simp only [answer?, Option.map_some]
    cases answered : ((b.run h code).run t).1 with
    | error f =>
      rw [answered] at passes breaks
      exact .unstaged (fun cleared => by obtain ⟨o, same, _⟩ := passes.mpr cleared; cases same)
        (breaks.mp ⟨f, rfl⟩)
    | ok o =>
      rw [answered] at passes breaks
      have staged : ¬Unstaged h (some b) code t := fun unstaged => by
        obtain ⟨f, same⟩ := breaks.mpr unstaged
        cases same
      cases passed : o.isPassed with
      | true =>
        obtain ⟨message, rfl⟩ : ∃ message, o = .passed message := by
          cases o with
          | passed message => exact ⟨message, rfl⟩
          | rejected | unavailable => cases passed
        exact .cleared (passes.mp ⟨_, rfl, rfl⟩) staged
      | false =>
        rw [merge_not_passed p a issues passed]
        refine .lowered (fun cleared => ?_) staged Std.min_le_right
        obtain ⟨o', same, yes⟩ := passes.mpr cleared
        obtain rfl := Except.ok.inj same
        rw [passed] at yes
        cases yes

end Scoring

/-- How a pass ends in which the sandbox `cleared` the snippet, or left it `unstaged`. -/
structure Ends (s : Settings) (slug code : String) (cleared unstaged : Prop) (st : Status)
    (points : Option UInt32) : Prop where
  passed : st = .passed ∧ points = some s.scoring.full ↔ Solved slug code ∧ cleared
  error : st = .error ∧ points = none ↔ unstaged
  pending : st = .pending ∧ points = none ↔ ¬Known slug ∧ cleared
  failed : st = .failed ∧ points.isSome = true ↔
    ¬(Solved slug code ∧ cleared) ∧ ¬unstaged ∧ ¬(¬Known slug ∧ cleared)
  le_hundred : ∀ n ∈ points, n ≤ 100
  le_ceiling : ¬cleared → ∀ n ∈ points, n ≤ s.scoring.ceiling
  ne_running : st ≠ .running

theorem ends_of_merges {s : Settings} (valid : s.Valid) {h : Host} {sandbox : Option Sandbox}
    {slug code : String} {t : Trace} {a : Assessment} {st : Status} {points : Option UInt32}
    (graded : s.scoring.Evaluates slug code a.status a.score)
    (merged : Scoring.Merges h sandbox code t s.scoring a st points) :
    Ends s slug code (Scoring.Cleared h sandbox code t) (Scoring.Unstaged h sandbox code t) st
      points := by
  cases merged with
  | cleared cleared staged =>
    obtain ⟨st, points, _, _⟩ := a
    cases graded with
    | solved solved =>
      have known : Known slug := solved.imp fun c hc => hc.1
      constructor <;> simp [cleared, staged, solved, known, valid.full_le]
    | unsolved known unsolved band =>
      constructor <;> simp [cleared, staged, unsolved, known, valid.band_le band]
    | unknown unknown =>
      have unsolved : ¬Solved slug code := fun solved => unknown (solved.imp fun c hc => hc.1)
      constructor <;> simp [cleared, staged, unsolved, unknown]
  | unstaged bad faulty => constructor <;> simp [bad, faulty]
  | lowered bad staged capped =>
    constructor <;> simp [bad, staged, capped, Std.le_trans capped valid.ceiling_le]

namespace ScoringService

theorem outcome?_eq_answer {service : ScoringService Work} {h : Host} {sandbox : Option Sandbox}
    (checks : service.sandbox = sandbox.map (Sandbox.run h)) {code : String} {t : Trace} :
    service.outcome? code t = Scoring.answer? h sandbox code (service.analyzed code t) := by
  simp only [outcome?, checks, Scoring.answer?, Option.map_map, Function.comp_def]

/-- A pass of the configured service ends in one of four ways. Only a snippet that solves its
challenge and is passed by the sandbox, if there is one, passes, and then it gets full points. -/
theorem pass_ends (s : Settings) (accepted : s.validate = .ok ()) (h : Host)
    (slug code : String) (t : Trace) :
    ∃ sandbox service, Sandbox.ofSettings s.sandbox = .ok sandbox ∧
      (sandbox = none ↔ s.sandbox.driver = .disabled) ∧ ofSettings h s = .ok service ∧
      Ends s slug code (Scoring.Cleared h sandbox code (service.analyzed code t))
        (Scoring.Unstaged h sandbox code (service.analyzed code t))
        (service.result slug code t).status (service.result slug code t).score := by
  have valid := Settings.validate_eq_ok_iff.mp accepted
  obtain ⟨sandbox, made, disabled⟩ := valid.exists_sandbox
  refine ⟨sandbox, _, made, disabled, ofSettings_of_sandbox made h, ?_⟩
  rw [result_eq_merge, outcome?_eq_answer rfl]
  exact ends_of_merges valid (s.scoring.evaluates slug code) (Scoring.merges _ _ _)

/-- A host on which every program is there and ends well without saying anything. -/
def calmHost : Host where
  locate name := some ("/usr/bin/" ++ name)
  hasPath _ := true
  tempDir := "/tmp"
  suffix n := toString n
  staging _ := none
  uuid n := toString n
  reply _ _ _ := { result := .ok { status := .exited 0 } }

theorem safeQuery_allowed : (DenyList.compile DenyList.hostPatterns).toOption.all
    (fun deny => deny.all fun p => !p.pattern.occursIn safeQuery) = true := by decide +kernel

theorem safeQuery_cleared {sandbox : Option Sandbox}
    (made : Sandbox.ofSettings {} = .ok sandbox) (t : Trace) :
    Scoring.Cleared calmHost sandbox safeQuery t := by
  obtain ⟨deny, read⟩ := exists_of_isOk DenyList.isOk_hostPatterns
  have found : Sandbox.ofSettings {} = .ok (some ⟨.host, {}, deny⟩) := by
    simp only [Sandbox.ofSettings, DenyList.ofSettings, Option.getD_none, read]
    rfl
  obtain rfl := Except.ok.inj (made.symm.trans found)
  have allowed := safeQuery_allowed
  rw [read] at allowed
  rintro _ ⟨⟩
  refine ⟨fun p mem => ?_, _, rfl, rfl, _, rfl, rfl⟩
  simpa using List.all_eq_true.mp allowed p mem

theorem pass_ends_passed : ({} : Settings).validate = .ok () ∧
    ∃ service, ofSettings calmHost {} = .ok service ∧
      (service.result "sqli_001" safeQuery {}).status = .passed ∧
      (service.result "sqli_001" safeQuery {}).score = some 100 := by
  obtain ⟨sandbox, service, made, _, served, ends⟩ :=
    pass_ends {} rfl calmHost "sqli_001" safeQuery {}
  have solved : Solved "sqli_001" safeQuery := ⟨.sqlInjection, rfl, by cbv, by cbv⟩
  exact ⟨rfl, service, served, ends.passed.mpr ⟨solved, safeQuery_cleared made _⟩⟩

end ScoringService

end FixGrader
