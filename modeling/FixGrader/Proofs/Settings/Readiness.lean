import FixGrader.Proofs.Scoring.Pass
import FixGrader.Proofs.Settings.Validity

namespace FixGrader

theorem exists_of_bind_eq_ok {ε α β : Type} {x : Except ε α} {f : α → Except ε β} {b : β}
    (run : x >>= f = .ok b) : ∃ a, x = .ok a ∧ f a = .ok b := by
  cases x with
  | error e => cases run
  | ok a => exact ⟨a, rfl, run⟩

theorem eq_error_of_map {ε α β : Type} {f : α → β} {x : Except ε α} {e : ε}
    (failed : x.map f = .error e) : x = .error e := by
  cases x with
  | error _ => exact congrArg _ (Except.error.inj failed)
  | ok _ => cases failed

/-- The first of `texts` that cannot be read as a pattern is `text`. -/
def DenyList.FirstUnreadable (texts : List String) (text : String) : Prop :=
  ∃ before after, texts = before ++ text :: after ∧
    (∀ t ∈ before, (Pattern.read? t).isSome = true) ∧ Pattern.read? text = none

namespace DenyList

variable {texts : List String} {text : String}

theorem compile_cases (texts : List String) :
    (∃ deny, compile texts = .ok deny ∧ ∀ t ∈ texts, (Pattern.read? t).isSome = true) ∨
    ∃ text, compile texts = .error text ∧ FirstUnreadable texts text := by
  induction texts with
  | nil => exact .inl ⟨[], rfl, by simp⟩
  | cons t texts ih =>
    rw [compile]
    cases read : Pattern.read? t with
    | none => exact .inr ⟨t, rfl, [], texts, rfl, by simp, read⟩
    | some pattern =>
      have readable : (Pattern.read? t).isSome = true := by rw [read]; rfl
      obtain ⟨deny, compiled, others⟩ | ⟨text, failed, before, after, rfl, others, unreadable⟩ := ih
      · exact .inl ⟨_, by rw [compiled]; rfl, List.forall_mem_cons.mpr ⟨readable, others⟩⟩
      · exact .inr ⟨text, by rw [failed]; rfl, t :: before, after, rfl,
          List.forall_mem_cons.mpr ⟨readable, others⟩, unreadable⟩

theorem isOk_compile_iff :
    (compile texts).isOk = true ↔ ∀ t ∈ texts, (Pattern.read? t).isSome = true := by
  obtain ⟨deny, compiled, readable⟩ | ⟨text, failed, before, after, rfl, -, unreadable⟩ :=
    compile_cases texts
  · rw [compiled]
    exact ⟨fun _ => readable, fun _ => rfl⟩
  · rw [failed]
    refine ⟨nofun, fun readable => ?_⟩
    have read := readable text (by simp)
    rw [unreadable] at read
    cases read

theorem firstUnreadable_of_error (failed : compile texts = .error text) :
    FirstUnreadable texts text := by
  obtain ⟨deny, compiled, -⟩ | ⟨t, failed', first⟩ := compile_cases texts
  · cases failed.symm.trans compiled
  · obtain rfl := Except.error.inj (failed.symm.trans failed')
    exact first

/-- The patterns of a driver can be read, so what cannot is among those of the settings. -/
theorem compile_of_ofSettings_error {s : SandboxSettings} {default : List String}
    (standard : (compile default).isOk = true) (failed : ofSettings s default = .error text) :
    compile (s.denyPatterns.getD []) = .error text ∧ s.denyPatterns ≠ none := by
  unfold ofSettings at failed
  cases own : s.denyPatterns with
  | none =>
    rw [own, Option.getD_none] at failed
    rw [failed] at standard
    cases standard
  | some texts =>
    rw [own] at failed
    exact ⟨failed, by simp⟩

end DenyList

theorem Sandbox.compile_of_ofSettings_error {s : SandboxSettings} {text : String}
    (failed : ofSettings s = .error text) :
    DenyList.compile (s.denyPatterns.getD []) = .error text ∧ s.denyPatterns ≠ none := by
  unfold ofSettings at failed
  cases driver : s.driver with
  | disabled =>
    rw [driver] at failed
    cases failed
  | host =>
    rw [driver] at failed
    exact DenyList.compile_of_ofSettings_error DenyList.isOk_hostPatterns (eq_error_of_map failed)
  | container =>
    rw [driver] at failed
    exact DenyList.compile_of_ofSettings_error DenyList.isOk_containerPatterns
      (eq_error_of_map failed)

namespace Settings

/-- The conditions on numbers: the bands descend from at most a hundred points to nothing less than
none, the ceiling is one of points as well, and there is time for everything. -/
structure NumbersHold (s : Settings) : Prop where
  full_le : s.scoring.full ≤ 100
  mixed_lt : s.scoring.mixed < s.scoring.full
  zero_lt : s.scoring.zero < s.scoring.mixed
  ceiling_le : s.scoring.ceiling ≤ 100
  semgrep_ne : s.analyzers.semgrep.seconds ≠ 0
  bandit_ne : s.analyzers.bandit.seconds ≠ 0
  sandbox_ne : s.sandbox.seconds ≠ 0
  stop_ne : s.stopSeconds ≠ 0

variable {s : Settings} {text : String}

theorem valid_iff : s.Valid ↔ s.NumbersHold ∧
    ∀ t ∈ s.sandbox.denyPatterns.getD [], (Pattern.read? t).isSome = true := by
  rw [← DenyList.isOk_compile_iff]
  constructor
  · rintro ⟨full, mixed, zero, ceiling, semgrep, bandit, sandbox, stop, readable⟩
    exact ⟨⟨full, mixed, zero, ceiling, semgrep, bandit, sandbox, stop⟩, readable⟩
  · rintro ⟨⟨full, mixed, zero, ceiling, semgrep, bandit, sandbox, stop⟩, readable⟩
    exact ⟨full, mixed, zero, ceiling, semgrep, bandit, sandbox, stop, readable⟩

theorem validate_of_compile_error (numbers : s.NumbersHold)
    (failed : DenyList.compile (s.sandbox.denyPatterns.getD []) = .error text) :
    s.validate = .error (.badPattern text) := by
  obtain ⟨full, mixed, zero, ceiling, semgrep, bandit, sandbox, stop⟩ := numbers
  have hold := conditions_hold_iff.mpr
    ⟨full, ⟨mixed, zero⟩, ceiling, semgrep, bandit, sandbox, stop⟩
  simp only [validate, hold, failed]

theorem Valid.withDriver (valid : s.Valid) (driver : SandboxDriver) :
    ({ s with sandbox.driver := driver } : Settings).Valid :=
  ⟨valid.full_le, valid.mixed_lt, valid.zero_lt, valid.ceiling_le, valid.semgrep_ne,
    valid.bandit_ne, valid.sandbox_ne, valid.stop_ne, valid.readable⟩

theorem Valid.exists_service (valid : s.Valid) (h : Host) :
    ∃ service, ScoringService.ofSettings h s = .ok service := by
  obtain ⟨sandbox, made, -⟩ := valid.exists_sandbox
  exact ⟨_, ScoringService.ofSettings_of_sandbox made h⟩

theorem validate_of_load {readFile : String → Except FileFault String} {env : Environment}
    (loaded : load readFile env = .ok s) : s.validate = .ok () := by
  have checked : ∀ document : Option String, (do
      let s ← (document.map ofToml).getD (.ok {})
      let s ← s.override env
      s.validate
      return s) = Except.ok s → s.validate = .ok () := by
    intro document loaded
    obtain ⟨_, -, rest⟩ := exists_of_bind_eq_ok loaded
    obtain ⟨_, -, rest⟩ := exists_of_bind_eq_ok rest
    obtain ⟨_, accepted, rest⟩ := exists_of_bind_eq_ok rest
    obtain rfl := Except.ok.inj rest
    exact accepted
  unfold load at loaded
  dsimp only at loaded
  split at loaded
  · obtain ⟨document, -, rest⟩ := exists_of_bind_eq_ok loaded
    exact checked document rest
  · split at loaded
    all_goals
      obtain ⟨document, -, rest⟩ := exists_of_bind_eq_ok loaded
      exact checked document rest

theorem compile_of_service_error {h : Host} (failed : ScoringService.ofSettings h s = .error text) :
    DenyList.compile (s.sandbox.denyPatterns.getD []) = .error text ∧
      s.sandbox.denyPatterns ≠ none := by
  unfold ScoringService.ofSettings at failed
  cases made : Sandbox.ofSettings s.sandbox with
  | error t =>
    rw [made] at failed
    obtain rfl := Except.error.inj failed
    exact Sandbox.compile_of_ofSettings_error made
  | ok sandbox =>
    rw [made] at failed
    cases failed

/-- Settings are accepted exactly if their numbers meet the conditions and all patterns they deny
can be read, and then there is a service for them, whatever the driver. If there is none, it is
because of the first of their patterns that cannot be read, and then they are not accepted either,
because of that pattern unless of a number. So there is a service for all settings that are
loaded. -/
theorem validated_yields_service :
    (∀ s : Settings, s.validate = .ok () ↔ s.NumbersHold ∧
      ∀ t ∈ s.sandbox.denyPatterns.getD [], (Pattern.read? t).isSome = true) ∧
    (∀ (s : Settings) h driver, s.validate = .ok () →
      ∃ service, ScoringService.ofSettings h { s with sandbox.driver := driver } = .ok service) ∧
    (∀ (s : Settings) h text, ScoringService.ofSettings h s = .error text →
      (∃ texts, s.sandbox.denyPatterns = some texts ∧ DenyList.FirstUnreadable texts text) ∧
      (∃ e, s.validate = .error e) ∧
      (s.NumbersHold → s.validate = .error (.badPattern text))) ∧
    (∀ readFile env s h, load readFile env = .ok s →
      ∃ service, ScoringService.ofSettings h s = .ok service) := by
  refine ⟨fun s => validate_eq_ok_iff.trans valid_iff, fun s h driver accepted => ?_,
    fun s h text failed => ?_, fun readFile env s h loaded => ?_⟩
  · exact ((validate_eq_ok_iff.mp accepted).withDriver driver).exists_service h
  · obtain ⟨unreadable, own⟩ := compile_of_service_error failed
    obtain ⟨texts, given⟩ := Option.ne_none_iff_exists'.mp own
    refine ⟨⟨texts, given, ?_⟩, ?_, fun numbers => validate_of_compile_error numbers unreadable⟩
    · rw [given] at unreadable
      exact DenyList.firstUnreadable_of_error unreadable
    · cases refused : s.validate with
      | error e => exact ⟨e, rfl⟩
      | ok u =>
        have readable := (validate_eq_ok_iff.mp refused).readable
        rw [unreadable] at readable
        cases readable
  · exact (validate_eq_ok_iff.mp (validate_of_load loaded)).exists_service h

theorem validated_yields_service_unclosed :
    let denied := ["eval\\(", "(unclosed", "[z"]
    let bad : Settings := { sandbox := { driver := .container, denyPatterns := some denied } }
    let env : Environment := [("SCORING_FULL_SCORE", "90"), ("SCORING_SANDBOX_DRIVER", "docker")]
    ScoringService.ofSettings ScoringService.calmHost bad = .error "(unclosed" ∧
    DenyList.FirstUnreadable denied "(unclosed" ∧
    bad.validate = .error (.badPattern "(unclosed") ∧
    (∃ service, ScoringService.ofSettings ScoringService.calmHost
      { ({} : Settings) with sandbox.driver := .container } = .ok service) ∧
    ∃ s service, load (fun _ => .error .missing) env = .ok s ∧ s.scoring.full = 90 ∧
      ScoringService.ofSettings ScoringService.calmHost s = .ok service := by
  intro denied bad env
  obtain ⟨-, served, fails, loads⟩ := validated_yields_service
  have unreadable : DenyList.compile denied = .error "(unclosed" := by
    have failed : (DenyList.compile denied).map (fun _ => ()) = .error "(unclosed" := by
      decide +kernel
    exact eq_error_of_map failed
  have failed : ScoringService.ofSettings ScoringService.calmHost bad = .error "(unclosed" := by
    have made : Sandbox.ofSettings bad.sandbox = .error "(unclosed" := by
      simp only [Sandbox.ofSettings, DenyList.ofSettings, bad, Option.getD_some, unreadable]
      rfl
    rw [ScoringService.ofSettings, made]
    rfl
  obtain ⟨⟨_, ⟨⟩, first⟩, -, refused⟩ := fails bad _ _ failed
  have loaded : load (fun _ => .error .missing) env =
      .ok { sandbox := { driver := .container }, scoring := { full := 90 } } := rfl
  obtain ⟨service, ready⟩ := loads _ _ _ ScoringService.calmHost loaded
  refine ⟨failed, first, refused ?_, served {} ScoringService.calmHost .container rfl,
    _, service, loaded, rfl, ready⟩
  constructor <;> decide

end Settings

end FixGrader
