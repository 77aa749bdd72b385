import FixGrader.Challenge.CommandInjection
import FixGrader.Proofs.Challenge.Idiom
import Mathlib

namespace FixGrader.CommandInjection

open Pattern CharSet Idiom

def callees : List String := ["run", "call", "check_call", "check_output", "Popen"]

def callText (f : String) : List Char := "subprocess.".toList ++ f.toList ++ ['(']

/-- The flag as an argument has it, with any blanks around the equality sign. -/
def IsFlag (m : List Char) : Prop := ∃ s t, m = "shell".toList ++ s ++ ['='] ++ t ++ "True".toList ∧
  ∀ c ∈ s ++ t, Text.isBlank c = true

def Flagged (cs : List Char) : Prop :=
  ∃ x m y, cs = x ++ m ++ y ∧ IsFlag m ∧ wordBefore x = false ∧ wordAfter y = false

variable {a b m x y rest call : List Char} {code : String}

theorem spans_callee : Spans (anyOf [lit "run", lit "call", lit "check_call", lit "check_output",
    lit "Popen"]) a m b ↔ ∃ f ∈ callees, m = f.toList := by
  simp only [spans_anyOf, spans_lit, callees, List.mem_cons, List.not_mem_nil, or_false,
    exists_eq_or_imp, exists_eq_left]

theorem spans_subprocessCall : Spans subprocessCall a m b ↔
    (∃ f ∈ callees, m = callText f) ∧ wordBefore a = false := by
  constructor
  · intro h
    obtain ⟨_, rfl, named⟩ := spans_append_char.mp h
    obtain ⟨_, _, rfl, start, name⟩ := spans_append.mp named
    obtain ⟨rfl, edge⟩ := (spans_wordBoundary_lit (by decide)).mp start
    obtain ⟨f, hf, rfl⟩ := spans_callee.mp name
    exact ⟨⟨f, hf, rfl⟩, edge⟩
  · rintro ⟨⟨f, hf, rfl⟩, start⟩
    refine .append (.append ?_ ?_) ?_
    · exact (spans_wordBoundary_lit (by decide)).mpr ⟨rfl, start⟩
    · exact spans_callee.mpr ⟨f, hf, rfl⟩
    · exact spans_char.mpr rfl

theorem spans_shellFlag : Spans shellFlag a m b ↔
    IsFlag m ∧ wordBefore a = false ∧ wordAfter b = false := by
  rw [shellFlag, spans_append_wordBoundary]
  constructor
  · rintro ⟨whole, right⟩
    obtain ⟨_, _, rfl, upToBlanks, name⟩ := spans_append.mp whole
    obtain ⟨_, t, rfl, upToSign, behind⟩ := spans_append.mp upToBlanks
    obtain ⟨_, rfl, upToName⟩ := spans_append_char.mp upToSign
    obtain ⟨_, s, rfl, start, before⟩ := spans_append.mp upToName
    obtain ⟨rfl, left⟩ := (spans_wordBoundary_lit (by decide)).mp start
    obtain rfl := spans_lit.mp name
    refine ⟨⟨s, t, rfl, ?_⟩, left, ?_⟩
    · exact List.forall_mem_append.mpr ⟨spans_blanks.mp before, spans_blanks.mp behind⟩
    · rw [← List.append_assoc, wordBefore_append _ (by decide)] at right
      exact Bool.eq_false_iff.mpr right.symm
  · rintro ⟨⟨s, t, rfl, blank⟩, left, right⟩
    obtain ⟨before, behind⟩ := List.forall_mem_append.mp blank
    refine ⟨.append (.append (.append (.append ?_ ?_) ?_) ?_) ?_, ?_⟩
    · exact (spans_wordBoundary_lit (by decide)).mpr ⟨rfl, left⟩
    · exact spans_blanks.mpr before
    · exact spans_char.mpr rfl
    · exact spans_blanks.mpr behind
    · exact spans_lit.mpr rfl
    · rw [← List.append_assoc, wordBefore_append _ (by decide), right]
      decide

theorem flagged_iff {cs : List Char} :
    Flagged cs ↔ ∃ x m y, cs = x ++ m ++ y ∧ Spans shellFlag x m y := by
  simp only [Flagged, spans_shellFlag]

theorem hasShellFreeCall_iff : hasShellFreeCall code = true ↔
    ∃ a call rest, code.toList = a ++ call ++ rest ∧ Spans subprocessCall a call rest ∧
      ¬Flagged (callArguments rest) := by
  simp only [hasShellFreeCall, List.any_eq_true, mem_ends_iff, isEmpty_ends_iff, flagged_iff]
  constructor
  · rintro ⟨_, ⟨a, call, rest, text, h, rfl⟩, free⟩
    exact ⟨a, call, rest, text, h, free⟩
  · rintro ⟨a, call, rest, text, h, free⟩
    exact ⟨_, ⟨a, call, rest, text, h, rfl⟩, free⟩

theorem isWord_of_isClosing {c : Char} (closing : isClosing c = true) :
    Unicode.isWord c = false := by
  simp only [isClosing, Bool.or_eq_true, beq_iff_eq] at closing
  obtain (rfl | rfl) | rfl := closing <;> decide

theorem isClosing_of_next? {s : ScanState} {c : Char} (closed : s.next? c = none) :
    isClosing c = true := by
  unfold ScanState.next? at closed
  split at closed
  · split_ifs at closed
  · split_ifs at closed
    assumption

def Closes (tail : List Char) : Prop := ∀ c ∈ tail.head?, isClosing c = true

theorem Closes.wordAfter (closes : Closes b) (y : List Char) :
    wordAfter (y ++ b) = Pattern.wordAfter y := by
  cases b with
  | nil => rw [List.append_nil]
  | cons c b => exact wordAfter_append_cons (isWord_of_isClosing (closes c rfl)) y

theorem exists_scan_append (s : ScanState) (cs : List Char) :
    ∃ tail, cs = scan s cs ++ tail ∧ Closes tail := by
  induction cs generalizing s with
  | nil => exact ⟨[], rfl, by simp [Closes]⟩
  | cons c cs ih =>
    rw [scan]
    cases next : s.next? c with
    | none => exact ⟨c :: cs, rfl, by simpa [Closes] using isClosing_of_next? next⟩
    | some t =>
      obtain ⟨tail, cut, closes⟩ := ih t
      exact ⟨tail, congrArg (c :: ·) cut, closes⟩

/-- Between the bracket of a call and the end of its arguments a pattern with word boundaries finds
what it finds there in the whole snippet. -/
theorem spans_within {p : Pattern} (bound : WordBound p) (called : Spans subprocessCall a call rest)
    (closes : Closes b) : Spans p x m y ↔ Spans p (a ++ call ++ x) m (y ++ b) := by
  obtain ⟨name, rfl, _⟩ := spans_append_char.mp called
  have left : wordBefore (a ++ (name ++ ['(']) ++ x) = wordBefore x := by
    have bracket : Unicode.isWord '(' = false := by decide
    rw [← wordBefore_append_cons bracket (a := a ++ name) x]
    simp
  have right := closes.wordAfter y
  exact ⟨(·.congr (bound.indifferent left.symm right.symm)),
    (·.congr (bound.indifferent left right))⟩

theorem risky_of_flagged (text : code.toList = a ++ call ++ rest)
    (called : Spans subprocessCall a call rest) (flagged : Flagged (callArguments rest)) :
    rule.risky code = true := by
  obtain ⟨tail, cut, closes⟩ := exists_scan_append {} rest
  obtain ⟨x, m, y, list, flag⟩ := flagged_iff.mp flagged
  have found : shellFlag.occursIn code = true := by
    refine occursIn_iff.mpr ⟨a ++ call ++ x, m, y ++ tail, ?_,
      (spans_within (by decide) called closes).mp flag⟩
    have behind : rest = x ++ m ++ y ++ tail := list ▸ cut
    rw [text, behind]
    simp only [List.append_assoc]
  simp only [rule, occursAny, List.any_cons, found, Bool.true_or, Bool.or_true]

theorem occursIn_of_safe (safe : rule.safe code = true) : subprocessCall.occursIn code = true := by
  obtain ⟨a, call, rest, text, called, _⟩ := hasShellFreeCall_iff.mp safe
  exact occursIn_iff.mpr ⟨a, call, rest, text, called⟩

theorem safe_of_unrisky (unrisky : rule.risky code = false)
    (occurs : subprocessCall.occursIn code = true) : rule.safe code = true := by
  obtain ⟨a, call, rest, text, called⟩ := occursIn_iff.mp occurs
  refine hasShellFreeCall_iff.mpr ⟨a, call, rest, text, called, fun flagged => ?_⟩
  rw [risky_of_flagged text called flagged] at unrisky
  cases unrisky

/-- A snippet gets full credit exactly if it calls a subprocess and nothing in it is risky. What the
scan of a call's arguments finds is in the snippet as well, so it only tells some credit from
none. -/
theorem full_iff_unrisky_call (code : String) :
    ((rule.judge code).band = .full ↔
      subprocessCall.occursIn code = true ∧ rule.risky code = false) ∧
    (∀ a call rest, code.toList = a ++ call ++ rest → Spans subprocessCall a call rest →
      ∃ tail, rest = callArguments rest ++ tail ∧ ∀ x m y, callArguments rest = x ++ m ++ y →
        (Spans shellFlag x m y ↔ Spans shellFlag (a ++ call ++ x) m (y ++ tail))) ∧
    (rule.judge code).band =
      if subprocessCall.occursIn code then
        if rule.risky code then if hasShellFreeCall code then .mixed else .zero else .full
      else .zero := by
  refine ⟨?_, fun a call rest _ called => ?_, ?_⟩
  · rw [Rule.judge_band_full_iff]
    exact ⟨fun ⟨safe, unrisky⟩ => ⟨occursIn_of_safe safe, unrisky⟩,
      fun ⟨occurs, unrisky⟩ => ⟨safe_of_unrisky unrisky occurs, unrisky⟩⟩
  · obtain ⟨tail, cut, closes⟩ := exists_scan_append {} rest
    exact ⟨tail, cut, fun x m y _ => spans_within (by decide) called closes⟩
  · cases occurs : subprocessCall.occursIn code with
    | false =>
      refine Rule.judge_band_zero_iff.mpr (Bool.eq_false_iff.mpr fun safe => ?_)
      rw [occursIn_of_safe safe] at occurs
      cases occurs
    | true =>
      cases risky : rule.risky code with
      | false => exact Rule.judge_band_full_iff.mpr ⟨safe_of_unrisky risky occurs, risky⟩
      | true =>
        have safe : rule.safe code = hasShellFreeCall code := rfl
        rw [Rule.judge, risky, safe]
        cases hasShellFreeCall code <;> rfl

/-- The arguments of a call that is not closed go on to the end of the text, and so does the flag. -/
theorem full_iff_unrisky_call_unclosed :
    let call := "subprocess.run(".toList
    let rest := "cmd, shell=True".toList
    Spans subprocessCall [] call rest ∧ callArguments rest = rest ∧
    Spans shellFlag (call ++ "cmd, ".toList) "shell=True".toList [] := by
  intro call rest
  have called : Spans subprocessCall [] call rest :=
    spans_subprocessCall.mpr ⟨⟨"run", by decide, by decide⟩, by decide⟩
  have list : callArguments rest = rest := by decide
  have flag : IsFlag "shell=True".toList := ⟨[], [], by decide, by simp⟩
  obtain ⟨_, places, _⟩ := full_iff_unrisky_call "subprocess.run(cmd, shell=True"
  obtain ⟨tail, cut, same⟩ := places [] call rest (by decide) called
  obtain rfl : tail = [] := by simpa [list] using cut
  refine ⟨called, list, (same "cmd, ".toList "shell=True".toList [] (by decide)).mp ?_⟩
  exact spans_shellFlag.mpr ⟨flag, by decide, by decide⟩

end FixGrader.CommandInjection
