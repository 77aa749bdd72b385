import FixGrader.Scoring.Basic
import FixGrader.Settings.Validation

namespace FixGrader

theorem exists_of_isOk {ε α : Type} {x : Except ε α} (ok : x.isOk = true) : ∃ a, x = .ok a := by
  cases x with
  | error e => cases ok
  | ok a => exact ⟨a, rfl⟩

theorem exists_of_map_eq_ok {ε α β : Type} {f : α → β} {x : Except ε α} {b : β}
    (mapped : x.map f = .ok b) : ∃ a, x = .ok a ∧ f a = b := by
  cases x with
  | error e => cases mapped
  | ok a => exact ⟨a, rfl, Except.ok.inj mapped⟩

namespace Settings

/-- Settings whose numbers meet their conditions and whose own denied patterns can be read. -/
structure Valid (s : Settings) : Prop where
  full_le : s.scoring.full ≤ 100
  mixed_lt : s.scoring.mixed < s.scoring.full
  zero_lt : s.scoring.zero < s.scoring.mixed
  ceiling_le : s.scoring.ceiling ≤ 100
  semgrep_ne : s.analyzers.semgrep.seconds ≠ 0
  bandit_ne : s.analyzers.bandit.seconds ≠ 0
  sandbox_ne : s.sandbox.seconds ≠ 0
  stop_ne : s.stopSeconds ≠ 0
  readable : (DenyList.compile (s.sandbox.denyPatterns.getD [])).isOk = true

theorem conditions_hold_iff {s : Settings} : s.conditions.find? (!·.1) = none ↔
    (s.scoring.full ≤ 100 ∧ (s.scoring.mixed < s.scoring.full ∧ s.scoring.zero < s.scoring.mixed) ∧
      s.scoring.ceiling ≤ 100 ∧ s.analyzers.semgrep.seconds ≠ 0 ∧ s.analyzers.bandit.seconds ≠ 0 ∧
      s.sandbox.seconds ≠ 0 ∧ s.stopSeconds ≠ 0) := by
  simp [conditions]

theorem validate_eq_ok_iff {s : Settings} : s.validate = .ok () ↔ s.Valid := by
  constructor
  · intro accepted
    unfold validate at accepted
    split at accepted
    · cases accepted
    next hold =>
      obtain ⟨full, ⟨mixed, zero⟩, ceiling, semgrep, bandit, sandbox, stop⟩ :=
        conditions_hold_iff.mp hold
      split at accepted
      · cases accepted
      next read =>
        exact ⟨full, mixed, zero, ceiling, semgrep, bandit, sandbox, stop, by rw [read]; rfl⟩
  · rintro ⟨full, mixed, zero, ceiling, semgrep, bandit, sandbox, stop, readable⟩
    have hold := conditions_hold_iff.mpr
      ⟨full, ⟨mixed, zero⟩, ceiling, semgrep, bandit, sandbox, stop⟩
    obtain ⟨deny, read⟩ := exists_of_isOk readable
    simp only [validate, hold, read]

end Settings

namespace DenyList

theorem isOk_hostPatterns : (compile hostPatterns).isOk = true := by decide +kernel

theorem isOk_containerPatterns : (compile containerPatterns).isOk = true := by decide +kernel

/-- Patterns that can be read if they are given stand in for others that can. -/
theorem isOk_ofSettings {s : SandboxSettings} {default : List String}
    (given : (compile (s.denyPatterns.getD [])).isOk = true)
    (standard : (compile default).isOk = true) : (ofSettings s default).isOk = true := by
  unfold ofSettings
  cases own : s.denyPatterns with
  | none => exact standard
  | some texts =>
    rw [own] at given
    exact given

end DenyList

namespace Settings.Valid

variable {s : Settings} (valid : s.Valid)

include valid

theorem exists_sandbox : ∃ sandbox, Sandbox.ofSettings s.sandbox = .ok sandbox ∧
    (sandbox = none ↔ s.sandbox.driver = .disabled) := by
  obtain ⟨host, hostRead⟩ := exists_of_isOk
    (DenyList.isOk_ofSettings valid.readable DenyList.isOk_hostPatterns)
  obtain ⟨container, containerRead⟩ := exists_of_isOk
    (DenyList.isOk_ofSettings valid.readable DenyList.isOk_containerPatterns)
  unfold Sandbox.ofSettings
  cases s.sandbox.driver with
  | disabled => exact ⟨none, rfl, by simp⟩
  | host => exact ⟨some ⟨.host, s.sandbox, host⟩, by rw [hostRead]; rfl, by simp⟩
  | container =>
    exact ⟨some ⟨.container, s.sandbox, container⟩, by rw [containerRead]; rfl, by simp⟩

end Settings.Valid

theorem ScoringService.ofSettings_of_sandbox {s : Settings} {sandbox : Option Sandbox}
    (made : Sandbox.ofSettings s.sandbox = .ok sandbox) (h : Host) :
    ofSettings h s =
      .ok ⟨s.analyzers.analyzers h, sandbox.map (Sandbox.run h), s.scoring⟩ := by
  rw [ofSettings, made]
  rfl

end FixGrader
