namespace FixGrader

/-- `full`: safe and not risky; `mixed`: both; `zero`: not safe. -/
inductive Band where
  | full
  | mixed
  | zero
  deriving DecidableEq, Repr

structure Verdict where
  band : Band
  feedback : String
  deriving DecidableEq, Repr

/-- What is said for each combination of the signals. -/
structure Wording where
  full : String
  mixed : String
  risky : String
  missing : String

namespace Verdict

def ofSignals (w : Wording) : Bool → Bool → Verdict
  | true, false => ⟨.full, w.full⟩
  | true, true => ⟨.mixed, w.mixed⟩
  | false, true => ⟨.zero, w.risky⟩
  | false, false => ⟨.zero, w.missing⟩

end Verdict

structure Rule where
  safe : String → Bool
  risky : String → Bool
  wording : Wording

namespace Rule

def judge (r : Rule) (code : String) : Verdict :=
  .ofSignals r.wording (r.safe code) (r.risky code)

theorem judge_band_full_iff {r : Rule} {code : String} :
    (r.judge code).band = .full ↔ r.safe code = true ∧ r.risky code = false := by
  cases hs : r.safe code <;> cases hr : r.risky code <;> simp [judge, Verdict.ofSignals, hs, hr]

theorem judge_band_zero_iff {r : Rule} {code : String} :
    (r.judge code).band = .zero ↔ r.safe code = false := by
  cases hs : r.safe code <;> cases hr : r.risky code <;> simp [judge, Verdict.ofSignals, hs, hr]

end Rule

end FixGrader
