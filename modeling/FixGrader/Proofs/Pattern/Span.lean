import FixGrader.Proofs.Pattern.Search
import Mathlib.Data.List.Forall2

namespace FixGrader.Pattern

open Place

/-- `p` matches `m` where `a` stands before it and `b` behind it. -/
def Spans (p : Pattern) (a m b : List Char) : Prop :=
  Matches p (between a (m ++ b)) (between (a ++ m) b)

variable {p q : Pattern} {s : CharSet} {a b m x y : List Char}

theorem mem_ends_iff {text : List Char} {j : Place} : j ∈ p.ends text ↔
    ∃ a m b, text = a ++ m ++ b ∧ Spans p a m b ∧ j = between (a ++ m) b := by
  rw [mem_ends]
  constructor
  · rintro ⟨i, ⟨a, b, rfl, rfl⟩, h⟩
    obtain ⟨m, b, rfl, rfl⟩ := h.exists_piece a b rfl
    exact ⟨a, m, b, by simp, h, rfl⟩
  · rintro ⟨a, m, b, rfl, h, rfl⟩
    exact ⟨between a (m ++ b), ⟨a, m ++ b, by simp, rfl⟩, h⟩

theorem isEmpty_ends_iff {text : List Char} :
    (p.ends text).isEmpty = true ↔ ¬∃ a m b, text = a ++ m ++ b ∧ Spans p a m b := by
  rw [List.isEmpty_iff, List.eq_nil_iff_forall_not_mem, ← not_exists]
  simp only [mem_ends_iff]
  refine not_congr ⟨?_, ?_⟩
  · rintro ⟨j, a, m, b, cut, h, _⟩
    exact ⟨a, m, b, cut, h⟩
  · rintro ⟨a, m, b, cut, h⟩
    exact ⟨_, a, m, b, cut, h, rfl⟩

/-- The search tells whether a match of `p` cuts the text somewhere. -/
theorem occursIn_iff {text : String} :
    p.occursIn text = true ↔ ∃ a m b, text.toList = a ++ m ++ b ∧ Spans p a m b := by
  rw [occursIn, Bool.not_eq_true', ← Bool.not_eq_true, isEmpty_ends_iff, not_not]

theorem between_inj {a b a' b' : List Char} (same : a ++ b = a' ++ b') :
    between a b = between a' b' ↔ a = a' ∧ b = b' := by
  constructor
  · intro h
    exact List.append_inj same (congrArg Place.offset h)
  · rintro ⟨rfl, rfl⟩
    rfl

theorem spans_empty : Spans empty a m b ↔ m = [] := by
  rw [Spans, Matches.empty_iff, between_inj (by simp)]
  simp

theorem spans_assert {A : Assertion} :
    Spans (assert A) a m b ↔ m = [] ∧ A.holds (between a b) = true := by
  rw [Spans, Matches.assert_iff, between_inj (by simp)]
  constructor
  · rintro ⟨⟨same, _⟩, holds⟩
    obtain rfl : m = [] := by simpa using same
    exact ⟨rfl, holds⟩
  · rintro ⟨rfl, holds⟩
    exact ⟨by simp, holds⟩

theorem spans_one : Spans (one s) a m b ↔ ∃ c, m = [c] ∧ s.mem c = true := by
  rw [Spans, Matches.one_iff]
  constructor
  · rintro ⟨c, cs, cut, mem, same⟩
    have text : a ++ m ++ b = a ++ [c] ++ cs := by simp [cut]
    obtain ⟨same, _⟩ := (between_inj text).mp same
    exact ⟨c, List.append_cancel_left same, mem⟩
  · rintro ⟨c, rfl, mem⟩
    exact ⟨c, b, rfl, mem, rfl⟩

theorem spans_append : Spans (p ++ q) a m b ↔
    ∃ x y, m = x ++ y ∧ Spans p a x (y ++ b) ∧ Spans q (a ++ x) y b := by
  constructor
  · intro h
    obtain ⟨k, first, second⟩ := Matches.seq_iff.mp h
    obtain ⟨x, y, cut, rfl⟩ := first.exists_piece a (m ++ b) rfl
    obtain ⟨y, z, rfl, end_⟩ := second.exists_piece (a ++ x) y rfl
    have text : a ++ m ++ b = a ++ x ++ y ++ z := by simp [cut]
    obtain ⟨front, rfl⟩ := (between_inj text).mp end_
    obtain rfl : m = x ++ y := by simpa using front
    refine ⟨x, y, rfl, ?_, ?_⟩
    · simpa [Spans] using first
    · simpa [Spans] using second
  · rintro ⟨x, y, rfl, first, second⟩
    refine Matches.seq_iff.mpr ⟨between (a ++ x) (y ++ b), ?_, ?_⟩
    · simpa [Spans] using first
    · simpa [Spans] using second

theorem Spans.append (first : Spans p a x (y ++ b)) (second : Spans q (a ++ x) y b) :
    Spans (p ++ q) a (x ++ y) b := spans_append.mpr ⟨x, y, rfl, first, second⟩

theorem occursIn_left {text : String} (h : (p ++ q).occursIn text = true) :
    p.occursIn text = true := by
  obtain ⟨a, m, b, cut, spans⟩ := occursIn_iff.mp h
  obtain ⟨x, y, rfl, first, _⟩ := spans_append.mp spans
  exact occursIn_iff.mpr ⟨a, x, y ++ b, by simp [cut], first⟩

theorem spans_alt : Spans (alt p q) a m b ↔ Spans p a m b ∨ Spans q a m b := Matches.alt_iff

theorem spans_run : Spans (run s) a m b ↔ ∀ c ∈ m, s.mem c = true := by
  induction m generalizing a with
  | nil => simpa [Spans] using Matches.runNil
  | cons c m ih =>
    have step := ih (a := a ++ [c])
    simp only [Spans, List.append_assoc, List.singleton_append] at step
    rw [Spans, List.cons_append, Matches.run_cons_iff, step, between_inj (by simp)]
    simp

theorem spans_optional : Spans (optional p) a m b ↔ Spans p a m b ∨ m = [] := by
  rw [optional, spans_alt, spans_empty]

theorem spans_char {c : Char} : Spans (char c) a m b ↔ m = [c] := by
  simp [char, spans_one, CharSet.mem_single]

theorem spans_append_char {c : Char} :
    Spans (p ++ char c) a m b ↔ ∃ x, m = x ++ [c] ∧ Spans p a x (c :: b) := by
  simp only [spans_append, spans_char]
  constructor
  · rintro ⟨x, _, rfl, h, rfl⟩
    exact ⟨x, rfl, h⟩
  · rintro ⟨x, rfl, h⟩
    exact ⟨x, [c], rfl, h, rfl⟩

theorem spans_chars {cs : List Char} : Spans (chars cs) a m b ↔ m = cs := by
  induction cs generalizing a m with
  | nil => exact spans_empty
  | cons c cs ih =>
    cases cs with
    | nil => exact spans_char
    | cons d cs =>
      rw [chars, spans_append]
      · simp only [spans_char, ih]
        constructor
        · rintro ⟨_, _, rfl, rfl, rfl⟩
          rfl
        · rintro rfl
          exact ⟨_, _, rfl, rfl, rfl⟩
      · simp

theorem spans_lit {t : String} : Spans (lit t) a m b ↔ m = t.toList := spans_chars

/-- The characters of `m` are those of `cs` but for letter case. -/
def Folded (cs m : List Char) : Prop :=
  List.Forall₂ (fun c d => (CharSet.folded (.single c)).mem d = true) cs m

theorem Folded.exists_of_mem {cs m : List Char} (h : Folded cs m) {d : Char} (mem : d ∈ m) :
    ∃ c ∈ cs, (CharSet.folded (.single c)).mem d = true := by
  induction h with
  | nil => cases mem
  | @cons c _ cs m first _ ih =>
    obtain rfl | mem := List.mem_cons.mp mem
    · exact ⟨c, List.mem_cons_self, first⟩
    · obtain ⟨c', hc, same⟩ := ih mem
      exact ⟨c', List.mem_cons_of_mem c hc, same⟩

theorem spans_foldedChars {cs : List Char} : Spans (foldedChars cs) a m b ↔ Folded cs m := by
  induction cs generalizing a m with
  | nil => rw [foldedChars, spans_empty, Folded, List.forall₂_nil_left_iff]
  | cons c cs ih =>
    have first : Spans (foldedChars (c :: cs)) a m b ↔
        ∃ d m', (CharSet.folded (.single c)).mem d = true ∧ Folded cs m' ∧ m = d :: m' := by
      cases cs with
      | nil =>
        rw [foldedChars, spans_one]
        simp only [Folded, List.forall₂_nil_left_iff]
        constructor
        · rintro ⟨d, rfl, mem⟩
          exact ⟨d, [], mem, rfl, rfl⟩
        · rintro ⟨d, _, mem, rfl, rfl⟩
          exact ⟨d, rfl, mem⟩
      | cons c' cs =>
        rw [foldedChars, spans_append]
        · simp only [spans_one, ih]
          constructor
          · rintro ⟨_, m', rfl, ⟨d, rfl, mem⟩, rest⟩
            exact ⟨d, m', mem, rest, rfl⟩
          · rintro ⟨d, m', mem, rest, rfl⟩
            exact ⟨[d], m', rfl, ⟨d, rfl, mem⟩, rest⟩
        · simp
    rw [first, Folded, List.forall₂_cons_left_iff]
    rfl

theorem spans_litFolded {t : String} : Spans (litFolded t) a m b ↔ Folded t.toList m :=
  spans_foldedChars

theorem spans_upTo_zero : Spans (upTo p 0) a m b ↔ m = [] := by
  rw [Spans, Matches.upTo_zero_iff, ← Matches.empty_iff]
  exact spans_empty

theorem spans_upTo_succ {n : Nat} :
    Spans (upTo p (n + 1)) a m b ↔ m = [] ∨ Spans (p ++ upTo p n) a m b := by
  rw [Spans, Matches.upTo_succ_iff, ← Matches.seq_iff, ← Matches.empty_iff]
  exact or_congr_left spans_empty

theorem spans_star : Spans (star p) a m b ↔ ∃ n, Spans (upTo p n) a m b :=
  ⟨fun h => ⟨_, h.upTo_of_star p rfl ⟨a, m ++ b, rfl, rfl⟩⟩, fun ⟨_, h⟩ => h.star_of_upTo⟩

end FixGrader.Pattern

namespace FixGrader

/-- What the assertion says between two characters, either of which may be missing. -/
def Assertion.sees (A : Assertion) (before after : Option Char) : Bool :=
  A.holds ⟨0, before, after.toList⟩

theorem Assertion.holds_eq_sees (A : Assertion) (i : Place) :
    A.holds i = A.sees i.before i.after := by
  cases A <;> simp [holds, sees, Place.after]

namespace Pattern

open Place

def assertions : Pattern → List Assertion
  | empty | one _ | run _ => []
  | assert A => [A]
  | seq p q | alt p q => p.assertions ++ q.assertions
  | star p | upTo p _ => p.assertions

/-- The assertions in `p` see no difference between a piece that stands between `a` and `b` and one
between `a'` and `b'`. -/
structure Indifferent (p : Pattern) (a b a' b' : List Char) : Prop where
  left : ∀ A ∈ p.assertions, ∀ o, A.sees a.getLast? o = A.sees a'.getLast? o
  right : ∀ A ∈ p.assertions, ∀ o, A.sees o b.head? = A.sees o b'.head?

variable {p q : Pattern} {a b a' b' m : List Char}

namespace Indifferent

theorem behind (h : Indifferent p a b a' b') (x : List Char) :
    Indifferent p (a ++ x) b (a' ++ x) b' := by
  refine ⟨fun A hA o => ?_, h.right⟩
  rw [List.getLast?_append, List.getLast?_append]
  cases x.getLast? with
  | none => exact h.left A hA o
  | some c => rfl

theorem before (h : Indifferent p a b a' b') (y : List Char) :
    Indifferent p a (y ++ b) a' (y ++ b') := by
  refine ⟨h.left, fun A hA o => ?_⟩
  rw [List.head?_append, List.head?_append]
  cases y.head? with
  | none => exact h.right A hA o
  | some c => rfl

theorem of_subset (h : Indifferent p a b a' b') (sub : q.assertions ⊆ p.assertions) :
    Indifferent q a b a' b' :=
  ⟨fun A hA => h.left A (sub hA), fun A hA => h.right A (sub hA)⟩

end Indifferent

theorem Spans.congr_append
    (first : ∀ {a m b a' b'}, Spans p a m b → Indifferent p a b a' b' → Spans p a' m b')
    (second : ∀ {a m b a' b'}, Spans q a m b → Indifferent q a b a' b' → Spans q a' m b')
    (h : Spans (p ++ q) a m b) (hp : Indifferent p a b a' b') (hq : Indifferent q a b a' b') :
    Spans (p ++ q) a' m b' := by
  obtain ⟨x, y, rfl, hx, hy⟩ := spans_append.mp h
  exact .append (first hx (hp.before y)) (second hy (hq.behind x))

theorem Spans.congr_upTo {n : Nat}
    (each : ∀ {a m b a' b'}, Spans p a m b → Indifferent p a b a' b' → Spans p a' m b')
    (h : Spans (upTo p n) a m b) (alike : Indifferent p a b a' b') : Spans (upTo p n) a' m b' := by
  induction n generalizing a m b a' b' with
  | zero => exact spans_upTo_zero.mpr (spans_upTo_zero.mp h)
  | succ n ih =>
    obtain none_ | more := spans_upTo_succ.mp h
    · exact spans_upTo_succ.mpr (.inl none_)
    · refine spans_upTo_succ.mpr (.inr (more.congr_append each ?_ alike ⟨alike.left, alike.right⟩))
      exact fun h alike => ih h ⟨alike.left, alike.right⟩

/-- A piece is matched alike wherever the assertions see no difference around it. -/
theorem Spans.congr (h : Spans p a m b) (alike : Indifferent p a b a' b') : Spans p a' m b' := by
  induction p generalizing a m b a' b' with
  | empty => exact spans_empty.mpr (spans_empty.mp h)
  | one s => exact spans_one.mpr (spans_one.mp h)
  | run s => exact spans_run.mpr (spans_run.mp h)
  | assert A =>
    obtain ⟨rfl, holds⟩ := spans_assert.mp h
    have hA : A ∈ (assert A).assertions := List.mem_singleton_self A
    refine spans_assert.mpr ⟨rfl, ?_⟩
    rw [A.holds_eq_sees] at holds ⊢
    exact (alike.right A hA _ ▸ alike.left A hA _ ▸ holds : _)
  | seq p q ihp ihq =>
    exact h.congr_append ihp ihq (alike.of_subset (List.subset_append_left _ _))
      (alike.of_subset (List.subset_append_right _ _))
  | alt p q ihp ihq =>
    obtain h | h := spans_alt.mp h
    · exact spans_alt.mpr (.inl (ihp h (alike.of_subset (List.subset_append_left _ _))))
    · exact spans_alt.mpr (.inr (ihq h (alike.of_subset (List.subset_append_right _ _))))
  | upTo p n ih => exact h.congr_upTo ih ⟨alike.left, alike.right⟩
  | star p ih =>
    obtain ⟨n, h⟩ := spans_star.mp h
    exact spans_star.mpr ⟨n, h.congr_upTo ih ⟨alike.left, alike.right⟩⟩

/-- A word character stands right before the place behind `a`. -/
def wordBefore (a : List Char) : Bool := a.getLast?.any Unicode.isWord

/-- A word character stands right behind the place before `b`. -/
def wordAfter (b : List Char) : Bool := b.head?.any Unicode.isWord

theorem wordBefore_append_cons {c : Char} (other : Unicode.isWord c = false) (x : List Char) :
    wordBefore (a ++ c :: x) = wordBefore x := by
  rw [wordBefore, wordBefore, List.getLast?_append, List.getLast?_cons]
  cases x.getLast? with
  | none => exact other
  | some d => rfl

theorem wordAfter_append_cons {c : Char} (other : Unicode.isWord c = false) (x : List Char) :
    wordAfter (x ++ c :: b) = wordAfter x := by
  cases x with
  | nil => exact other
  | cons d x => rfl

theorem wordBefore_append (x : List Char) (word : wordBefore a = true) :
    wordBefore (x ++ a) = true := by
  rw [wordBefore] at word ⊢
  rw [List.getLast?_append]
  cases last : a.getLast? with
  | none => simp [last] at word
  | some c => simpa [last] using word

theorem wordAfter_append (x : List Char) (word : wordAfter b = true) :
    wordAfter (b ++ x) = true := by
  cases b with
  | nil => cases word
  | cons c b => exact word

theorem sees_wordBoundary (before after : Option Char) :
    Assertion.wordBoundary.sees before after =
      (before.any Unicode.isWord != after.any Unicode.isWord) := by
  cases after <;> rfl

theorem spans_wordBoundary :
    Spans wordBoundary a m b ↔ m = [] ∧ wordBefore a ≠ wordAfter b := by
  rw [wordBoundary, spans_assert]
  exact and_congr_right fun _ => bne_iff_ne

theorem spans_append_wordBoundary :
    Spans (p ++ wordBoundary) a m b ↔ Spans p a m b ∧ wordBefore (a ++ m) ≠ wordAfter b := by
  simp only [spans_append, spans_wordBoundary]
  constructor
  · rintro ⟨m, _, rfl, h, rfl, edge⟩
    simpa using ⟨h, edge⟩
  · rintro ⟨h, edge⟩
    exact ⟨m, [], by simp, h, rfl, edge⟩

/-- A text that begins with a word character, where a word begins. -/
theorem spans_wordBoundary_lit {w : String} (word : wordAfter w.toList = true) :
    Spans (wordBoundary ++ lit w) a m b ↔ m = w.toList ∧ wordBefore a = false := by
  simp only [spans_append, spans_wordBoundary, spans_lit]
  constructor
  · rintro ⟨_, _, rfl, ⟨rfl, edge⟩, rfl⟩
    rw [wordAfter_append b word, ne_eq, Bool.not_eq_true] at edge
    exact ⟨rfl, edge⟩
  · rintro ⟨rfl, start⟩
    have edge : wordBefore a ≠ wordAfter (w.toList ++ b) := by
      rw [wordAfter_append b word, start]
      decide
    exact ⟨[], w.toList, rfl, ⟨rfl, edge⟩, rfl⟩

/-- The only assertions in the pattern are word boundaries. -/
def WordBound (p : Pattern) : Prop := p.assertions ⊆ [.wordBoundary]

instance (p : Pattern) : Decidable (WordBound p) :=
  inferInstanceAs (Decidable (p.assertions ⊆ [.wordBoundary]))

theorem WordBound.indifferent (h : WordBound p) (left : wordBefore a = wordBefore a')
    (right : wordAfter b = wordAfter b') : Indifferent p a b a' b' := by
  constructor
  · intro A hA o
    obtain rfl := List.mem_singleton.mp (h hA)
    rw [sees_wordBoundary, sees_wordBoundary]
    exact congrArg (· != o.any Unicode.isWord) left
  · intro A hA o
    obtain rfl := List.mem_singleton.mp (h hA)
    rw [sees_wordBoundary, sees_wordBoundary]
    exact congrArg (o.any Unicode.isWord != ·) right

end Pattern

end FixGrader
