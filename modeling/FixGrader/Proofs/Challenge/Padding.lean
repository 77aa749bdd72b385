import FixGrader.Challenge.Basic
import FixGrader.Proofs.Challenge.Idiom
import FixGrader.Proofs.Scoring.Pass
import Mathlib

namespace FixGrader

def EndsLine (s : String) : Prop := s = "" ∨ s.toList.getLast? = some '\n'

def StartsLine (s : String) : Prop := s = "" ∨ s.toList.head? = some '\n'

instance (s : String) : Decidable (EndsLine s) := inferInstanceAs (Decidable (_ ∨ _))

instance (s : String) : Decidable (StartsLine s) := inferInstanceAs (Decidable (_ ∨ _))

/-- The assertion sees no difference between an end of the text and an end of a line. -/
structure Assertion.Linewise (A : Assertion) : Prop where
  left : ∀ o, A.sees none o = A.sees (some '\n') o
  right : ∀ o, A.sees o none = A.sees o (some '\n')

theorem Assertion.linewise_wordBoundary : Linewise .wordBoundary := by
  have feed : Unicode.isWord '\n' = false := by decide
  constructor <;> intro o <;> rw [Pattern.sees_wordBoundary, Pattern.sees_wordBoundary] <;>
    simp [feed]

theorem Assertion.linewise_lineEnd : Linewise .lineEnd := ⟨fun _ => rfl, fun _ => rfl⟩

namespace Pattern

variable {p : Pattern} {above code below : String}

def LineBound (p : Pattern) : Prop := p.assertions ⊆ [.wordBoundary, .lineEnd]

instance (p : Pattern) : Decidable (LineBound p) :=
  inferInstanceAs (Decidable (p.assertions ⊆ [.wordBoundary, .lineEnd]))

theorem LineBound.linewise (bound : LineBound p) : ∀ A ∈ p.assertions, A.Linewise := by
  intro A hA
  have listed := bound hA
  simp only [List.mem_cons, List.not_mem_nil, or_false] at listed
  obtain rfl | rfl := listed
  · exact Assertion.linewise_wordBoundary
  · exact Assertion.linewise_lineEnd

theorem LineBound.indifferent (bound : LineBound p) (ends : EndsLine above)
    (starts : StartsLine below) : Indifferent p [] [] above.toList below.toList := by
  constructor
  · intro A hA o
    obtain rfl | feed := ends
    · rfl
    · rw [feed]
      exact (bound.linewise A hA).left o
  · intro A hA o
    obtain rfl | feed := starts
    · rfl
    · rw [feed]
      exact (bound.linewise A hA).right o

theorem LineBound.occursIn (bound : LineBound p) (ends : EndsLine above)
    (starts : StartsLine below) (found : p.occursIn code = true) :
    p.occursIn (above ++ code ++ below) = true := by
  obtain ⟨a, m, b, text, spans⟩ := occursIn_iff.mp found
  have alike := ((bound.indifferent ends starts).behind a).before b
  rw [List.nil_append, List.append_nil] at alike
  refine occursIn_iff.mpr ⟨above.toList ++ a, m, b ++ below.toList, ?_, spans.congr alike⟩
  simp only [String.toList_append, text, List.append_assoc]

theorem occursAny_padded {ps : List Pattern} (bound : ∀ p ∈ ps, LineBound p)
    (ends : EndsLine above) (starts : StartsLine below)
    (found : Idiom.occursAny ps code = true) :
    Idiom.occursAny ps (above ++ code ++ below) = true := by
  obtain ⟨p, hp, occurs⟩ := Idiom.occursAny_eq_true.mp found
  exact Idiom.occursAny_eq_true.mpr ⟨p, hp, (bound p hp).occursIn ends starts occurs⟩

end Pattern

namespace Challenge

open Pattern

variable {above code below : String}

theorem risky_padded (c : Challenge) (ends : EndsLine above) (starts : StartsLine below)
    (risky : c.rule.risky code = true) : c.rule.risky (above ++ code ++ below) = true := by
  cases c with
  | sqlInjection => exact occursAny_padded (by decide) ends starts risky
  | crossSiteScripting => exact occursAny_padded (by decide) ends starts risky
  | commandInjection => exact occursAny_padded (by decide) ends starts risky

/-- The rule on command injection is left out: it looks at a call's arguments as far as they go, and
lines behind a call that is not closed belong to them. -/
theorem safe_padded {c : Challenge} (other : c ≠ .commandInjection) (ends : EndsLine above)
    (starts : StartsLine below) (safe : c.rule.safe code = true) :
    c.rule.safe (above ++ code ++ below) = true := by
  cases c with
  | sqlInjection => exact occursAny_padded (by decide) ends starts safe
  | crossSiteScripting => exact occursAny_padded (by decide) ends starts safe
  | commandInjection => exact absurd rfl other

/-- Lines around a snippet leave it risky, so they do not earn it full credit, and where safe
constructs are told by patterns they leave it safe, so they do not cost it all credit. -/
theorem padded_signals (c : Challenge) (code : String) {above below : String}
    (ends : EndsLine above) (starts : StartsLine below) :
    (c.rule.risky code = true → c.rule.risky (above ++ code ++ below) = true ∧
      (c.rule.judge (above ++ code ++ below)).band ≠ .full) ∧
    (c ≠ .commandInjection →
      (c.rule.safe code = true → c.rule.safe (above ++ code ++ below) = true) ∧
      ((c.rule.judge code).band ≠ .zero →
        (c.rule.judge (above ++ code ++ below)).band ≠ .zero)) := by
  constructor
  · intro risky
    have still := c.risky_padded ends starts risky
    exact ⟨still, Rule.band_ne_full still⟩
  · intro other
    refine ⟨safe_padded other ends starts, fun credit none_ => ?_⟩
    have safe : c.rule.safe code = true := by
      by_contra unsafe_
      exact credit (Rule.judge_band_zero_iff.mpr (Bool.not_eq_true _ ▸ unsafe_))
    have still := safe_padded other ends starts safe
    rw [Rule.judge_band_zero_iff.mp none_] at still
    cases still

/-- The pattern that finds the variable behind the tag ends at the end of a line. -/
theorem padded_signals_appended :
    let above := "import html\n"
    let code := "return html.escape(title) + \"<b>\" + name"
    let below := "\n\nprint(name)"
    EndsLine above ∧ StartsLine below ∧
    crossSiteScripting.rule.risky (above ++ code ++ below) = true ∧
    crossSiteScripting.rule.safe (above ++ code ++ below) = true ∧
    (crossSiteScripting.rule.judge (above ++ code ++ below)).band = .mixed := by
  intro above code below
  have ends : EndsLine above := by decide
  have starts : StartsLine below := by decide
  have risky : crossSiteScripting.rule.risky code = true := by cbv
  have safe : crossSiteScripting.rule.safe code = true := by cbv
  obtain ⟨danger, care⟩ := padded_signals .crossSiteScripting code ends starts
  have still := (care (by decide)).1 safe
  refine ⟨ends, starts, (danger risky).1, still, ?_⟩
  rw [Rule.judge, (danger risky).1, still]
  rfl

end Challenge

end FixGrader
