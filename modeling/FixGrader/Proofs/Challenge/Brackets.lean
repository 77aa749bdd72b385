import FixGrader.Proofs.Challenge.Subprocess
import Mathlib

namespace FixGrader.CommandInjection

open Pattern CharSet Idiom

mutual

/-- The characters that stand in no literal. In a literal a backslash takes the next character
along, and a literal that is not closed goes on to the end. -/
def outside : List Char → List Char
  | [] => []
  | c :: cs => if isQuote c then outsideIn c cs else c :: outside cs

def outsideIn (q : Char) : List Char → List Char
  | [] => []
  | '\\' :: _ :: cs => outsideIn q cs
  | c :: cs => if c == q then outside cs else outsideIn q cs

end

def openings (cs : List Char) : Nat := (outside cs).countP isOpening

def closings (cs : List Char) : Nat := (outside cs).countP isClosing

def Balanced (cs : List Char) : Prop := ∀ p, p <+: cs → closings p ≤ openings p

instance (cs : List Char) : Decidable (Balanced cs) :=
  decidable_of_iff (∀ p ∈ cs.inits, closings p ≤ openings p) (by simp [Balanced])

example : Balanced "'it\\'s )', (x".toList ∧ ¬Balanced "'it\\\\'s )".toList := by decide

/-- Behind the arguments stands a bracket of no literal, and all that they opened is closed. -/
def IsClosed (args rest : List Char) : Prop :=
  ∃ c tail, rest = args ++ c :: tail ∧ isClosing c = true ∧
    outside (args ++ [c]) = outside args ++ [c] ∧ closings args = openings args

/-- What the scan does at a character that does not close the call. -/
inductive Step : ScanState → Char → ScanState → Prop
  | plain {d c} (noQuote : isQuote c = false) (noOpening : isOpening c = false)
      (noClosing : isClosing c = false) : Step ⟨d, none, false⟩ c ⟨d, none, false⟩
  | opening {d c} (noQuote : isQuote c = false) (opening : isOpening c = true) :
      Step ⟨d, none, false⟩ c ⟨d + 1, none, false⟩
  | closing {d c} (noQuote : isQuote c = false) (noOpening : isOpening c = false)
      (closing : isClosing c = true) : Step ⟨d + 1, none, false⟩ c ⟨d, none, false⟩
  | quote {d c} (quote : isQuote c = true) : Step ⟨d, none, false⟩ c ⟨d, some c, false⟩
  | unquote {d q} (plain : q ≠ '\\') : Step ⟨d, some q, false⟩ q ⟨d, none, false⟩
  | escape {d q} : Step ⟨d, some q, false⟩ '\\' ⟨d, some q, true⟩
  | escaped {d q c} : Step ⟨d, some q, true⟩ c ⟨d, some q, false⟩
  | quoted {d q c} (plain : c ≠ '\\') (other : c ≠ q) :
      Step ⟨d, some q, false⟩ c ⟨d, some q, false⟩

variable {s t : ScanState} {c q : Char} {cs : List Char}

theorem outsideIn_escape : outsideIn q ('\\' :: cs) = outsideIn q cs.tail := by
  cases cs with
  | nil => by_cases same : '\\' = q <;> simp [outsideIn, outside, same]
  | cons d cs => rfl

theorem outsideIn_cons (plain : c ≠ '\\') :
    outsideIn q (c :: cs) = if c = q then outside cs else outsideIn q cs := by
  rw [outsideIn]
  · simp only [beq_iff_eq]
  · rintro d ds rfl
    exact absurd rfl plain

theorem not_isClosing_of_isOpening (opening : isOpening c = true) : isClosing c = false := by
  simp only [isOpening, Bool.or_eq_true, beq_iff_eq] at opening
  obtain (rfl | rfl) | rfl := opening <;> decide

namespace ScanState

def Steady (s : ScanState) : Prop := s.quote = none → s.escaped = false

theorem steady_start : ({} : ScanState).Steady := fun _ => rfl

theorem step_or_closes (steady : s.Steady) (c : Char) :
    (∃ t, s.next? c = some t ∧ Step s c t) ∨
      s.next? c = none ∧ s = {} ∧ isClosing c = true ∧ CommandInjection.outside [c] = [c] := by
  obtain ⟨d, _ | q, e⟩ := s
  · obtain rfl : e = false := steady rfl
    cases quote : isQuote c with
    | true => exact .inl ⟨_, by simp [next?, quote], .quote quote⟩
    | false =>
      cases opening : isOpening c with
      | true => exact .inl ⟨_, by simp [next?, quote, opening], .opening quote opening⟩
      | false =>
        cases closing : isClosing c with
        | false => exact .inl ⟨_, by simp [next?, quote, opening, closing],
            .plain quote opening closing⟩
        | true =>
          cases d with
          | zero =>
            exact .inr ⟨by simp [next?, quote, opening, closing], rfl, rfl,
              by simp [CommandInjection.outside, quote]⟩
          | succ d => exact .inl ⟨_, by simp [next?, quote, opening, closing],
              .closing quote opening closing⟩
  · left
    cases e with
    | true => exact ⟨_, rfl, .escaped⟩
    | false =>
      by_cases escapes : c = '\\'
      · subst escapes
        exact ⟨_, rfl, .escape⟩
      by_cases same : c = q
      · subst same
        exact ⟨_, by simp [next?, escapes], .unquote escapes⟩
      · exact ⟨_, by simp [next?, escapes, same], .quoted escapes same⟩

/-- The characters in no literal of a text that the scan has yet to read. -/
def outside (s : ScanState) (cs : List Char) : List Char :=
  match s.quote with
  | none => CommandInjection.outside cs
  | some q => outsideIn q (if s.escaped then cs.tail else cs)

/-- The brackets open behind `cs`, less than zero if it closes more than were open. -/
def opened (s : ScanState) (cs : List Char) : Int :=
  s.depth + (s.outside cs).countP isOpening - (s.outside cs).countP isClosing

def Bears (s : ScanState) (cs : List Char) : Prop := ∀ p, p <+: cs → 0 ≤ s.opened p

end ScanState

theorem Step.steady (step : Step s c t) : t.Steady := by
  cases step <;> simp [ScanState.Steady]

/-- A step reads `c` as code or within a literal, and has counted it if it is a bracket of code. -/
theorem Step.outside_cons (step : Step s c t) : ∃ k : List Char,
    (∀ cs, s.outside (c :: cs) = k ++ t.outside cs) ∧
      (t.depth : Int) = s.depth + k.countP isOpening - k.countP isClosing := by
  cases step with
  | plain noQuote noOpening noClosing =>
    exact ⟨[c], fun cs => by simp [ScanState.outside, outside, noQuote],
      by simp [noOpening, noClosing]⟩
  | opening noQuote opening =>
    exact ⟨[c], fun cs => by simp [ScanState.outside, outside, noQuote],
      by simp [opening, not_isClosing_of_isOpening opening]⟩
  | closing noQuote noOpening closing =>
    exact ⟨[c], fun cs => by simp [ScanState.outside, outside, noQuote],
      by simp [noOpening, closing]⟩
  | quote quote => exact ⟨[], fun cs => by simp [ScanState.outside, outside, quote], by simp⟩
  | unquote plain =>
    exact ⟨[], fun cs => by simp [ScanState.outside, outsideIn_cons plain], by simp⟩
  | escape => exact ⟨[], fun cs => by simp [ScanState.outside, outsideIn_escape], by simp⟩
  | escaped => exact ⟨[], fun cs => by simp [ScanState.outside], by simp⟩
  | quoted plain other =>
    exact ⟨[], fun cs => by simp [ScanState.outside, outsideIn_cons plain, other], by simp⟩

theorem Step.opened_cons (step : Step s c t) (cs : List Char) :
    s.opened (c :: cs) = t.opened cs := by
  obtain ⟨k, reads, depth⟩ := step.outside_cons
  simp only [ScanState.opened, reads, List.countP_append, depth]
  push_cast
  ring

theorem opened_nil : s.opened [] = s.depth := by
  obtain ⟨d, _ | q, _ | _⟩ := s <;> simp [ScanState.opened, ScanState.outside, outside, outsideIn]

theorem Step.bears_cons (step : Step s c t) : s.Bears (c :: cs) ↔ t.Bears cs := by
  simp only [ScanState.Bears, List.prefix_cons_iff]
  constructor
  · intro bears p front
    rw [← step.opened_cons]
    exact bears (c :: p) (.inr ⟨p, rfl, front⟩)
  · rintro bears _ (rfl | ⟨p, rfl, front⟩)
    · rw [opened_nil]
      exact Int.natCast_nonneg s.depth
    · rw [step.opened_cons]
      exact bears p front

theorem opened_start (cs : List Char) :
    ({} : ScanState).opened cs = openings cs - closings cs := by
  simp [ScanState.opened, ScanState.outside, openings, closings]

theorem balanced_iff : Balanced cs ↔ ({} : ScanState).Bears cs := by
  refine forall₂_congr fun p _ => ?_
  rw [opened_start]
  omega

/-- The scan reads the fronts of the text that close no more brackets than are open. -/
theorem prefix_scan_iff {p : List Char} (steady : s.Steady) (front : p <+: cs) :
    p <+: scan s cs ↔ s.Bears p := by
  -- On the text: a step leaves the count of open brackets behind each front as it is, and where the
  -- scan ends, the front of one character brings it below zero.
  induction cs generalizing s p with
  | nil =>
    obtain rfl := List.prefix_nil.mp front
    simp [scan, ScanState.Bears, opened_nil]
  | cons c cs ih =>
    obtain rfl | ⟨p, rfl, behind⟩ := List.prefix_cons_iff.mp front
    · simp [ScanState.Bears, opened_nil]
    obtain ⟨t, next, step⟩ | ⟨next, rfl, closing, code⟩ := s.step_or_closes steady c
    · rw [scan, next, List.prefix_cons_inj, ih step.steady behind, step.bears_cons]
    · rw [scan, next]
      refine iff_of_false (by simp) fun bears => ?_
      have nonneg := bears [c] ⟨p, rfl⟩
      have noOpening : isOpening c = false := Bool.eq_false_iff.mpr fun opening => by
        simp [not_isClosing_of_isOpening opening] at closing
      simp [opened_start, openings, closings, code, noOpening, closing] at nonneg

theorem scan_eq_or_closed (steady : s.Steady) (cs : List Char) :
    scan s cs = cs ∨ ∃ c tail, cs = scan s cs ++ c :: tail ∧ isClosing c = true ∧
      s.outside (scan s cs ++ [c]) = s.outside (scan s cs) ++ [c] ∧ s.opened (scan s cs) = 0 := by
  induction cs generalizing s with
  | nil => exact .inl rfl
  | cons c cs ih =>
    obtain ⟨t, next, step⟩ | ⟨next, rfl, closing, code⟩ := s.step_or_closes steady c
    · obtain ⟨k, reads, _⟩ := step.outside_cons
      rw [scan, next]
      simp only [List.cons_append, reads, step.opened_cons, List.append_assoc]
      obtain all | ⟨b, tail, cut, closing, code, even⟩ := ih step.steady
      · exact .inl (congrArg (c :: ·) all)
      · exact .inr ⟨b, tail, congrArg (c :: ·) cut, closing, congrArg (k ++ ·) code, even⟩
    · rw [scan, next]
      exact .inr ⟨c, cs, rfl, closing, code, opened_nil⟩

theorem scan_append (unread : scan s cs ≠ cs) (more : List Char) :
    scan s (cs ++ more) = scan s cs := by
  induction cs generalizing s with
  | nil => exact absurd rfl unread
  | cons c cs ih =>
    rw [List.cons_append, scan, scan]
    rw [scan] at unread
    cases next : s.next? c with
    | none => rfl
    | some t =>
      rw [next] at unread
      exact congrArg (c :: ·) (ih fun all => unread (congrArg (c :: ·) all))

def ScanState.counted (s : ScanState) : Loop := ⟨s.depth + 1, s.quote, s.escaped⟩

theorem Step.depth_le (step : Step s c t) : t.depth ≤ s.depth + 1 := by
  cases step <;> dsimp only <;> omega

theorem Step.next_counted {limit : Nat} (step : Step s c t) (fits : s.depth + 1 < limit) :
    s.counted.next limit c = .ok (some t.counted) := by
  cases step with
  | plain noQuote noOpening noClosing =>
    simp [Loop.next, ScanState.counted, noQuote, noOpening, noClosing]
  | opening noQuote opening => simp [Loop.next, ScanState.counted, noQuote, opening, fits]
  | closing noQuote noOpening closing =>
    simp [Loop.next, ScanState.counted, noQuote, noOpening, closing]
  | quote quote => simp [Loop.next, ScanState.counted, quote]
  | unquote plain => simp [Loop.next, ScanState.counted, plain]
  | escape => rfl
  | escaped => rfl
  | quoted plain other => simp [Loop.next, ScanState.counted, plain, other]

theorem next_closing (limit : Nat) (closing : isClosing c = true) :
    ({} : Loop).next limit c = .ok none := by
  simp only [isClosing, Bool.or_eq_true, beq_iff_eq] at closing
  obtain (rfl | rfl) | rfl := closing <;> rfl

theorem run_counted {limit : Nat} (steady : s.Steady) (fits : s.depth + cs.length < limit)
    (i : Nat) : s.counted.run limit i cs = .ok (if scan s cs = cs then none
      else some (i + (String.ofList (scan s cs)).utf8ByteSize)) := by
  induction cs generalizing s i with
  | nil => rfl
  | cons c cs ih =>
    rw [List.length_cons] at fits
    obtain ⟨t, next, step⟩ | ⟨next, rfl, closing, _⟩ := s.step_or_closes steady c
    · have deeper := step.depth_le
      have behind := ih step.steady (by omega) (i + c.utf8Size)
      rw [Loop.run, step.next_counted (by omega), scan, next]
      simp only [List.cons.injEq, true_and, String.ofList_cons, String.utf8ByteSize_append,
        String.utf8ByteSize_singleton, ← Nat.add_assoc]
      exact behind
    · rw [scan, next, Loop.run, ScanState.counted, next_closing limit closing]
      rfl

theorem cut_append (x y : String) : cut (x ++ y) x.utf8ByteSize = .ok (x, y) := by
  have valid : x.rawEndPos.IsValid (x ++ y) :=
    String.Pos.Raw.isValid_iff_exists_append.mpr ⟨x, y, rfl, rfl⟩
  let p : (x ++ y).Pos := (x ++ y).pos x.rawEndPos valid
  have splits : p.Splits x y := ⟨rfl, rfl⟩
  have found : (x ++ y).pos? ⟨x.utf8ByteSize⟩ = some p := by
    rw [String.pos?, String.Slice.pos?, dif_pos]
    · rfl
    · exact String.Pos.Raw.isValidForSlice_eq_true_iff.mpr valid.toSlice
  rw [cut, found]
  simp only [splits.copy_sliceTo_eq, splits.copy_sliceFrom_eq]

theorem length_le_utf8ByteSize (cs : List Char) :
    cs.length ≤ (String.ofList cs).utf8ByteSize := by
  induction cs with
  | nil => exact Nat.zero_le _
  | cons c cs ih =>
    rw [String.ofList_cons, String.utf8ByteSize_append, String.utf8ByteSize_singleton,
      List.length_cons]
    have := c.utf8Size_pos
    omega

theorem argumentsOf_eq {limit : Nat} (fits : cs.length < limit) :
    argumentsOf limit (String.ofList cs) = .ok (String.ofList (callArguments cs)) := by
  have run : ({} : Loop).run limit 0 (String.ofList cs).toList =
      .ok (if callArguments cs = cs then none
        else some (String.ofList (callArguments cs)).utf8ByteSize) := by
    rw [String.toList_ofList, ← Nat.zero_add (String.utf8ByteSize _)]
    exact run_counted ScanState.steady_start (by simpa using fits) 0
  rw [argumentsOf, run]
  split_ifs with all
  · rw [all]
    rfl
  · obtain ⟨tail, text, _⟩ := exists_scan_append {} cs
    have two : String.ofList cs = String.ofList (callArguments cs) ++ String.ofList tail := by
      rw [← String.ofList_append, callArguments, ← text]
    have halves := cut_append (String.ofList (callArguments cs)) (String.ofList tail)
    rw [← two] at halves
    simp only [bind, Except.bind, halves]
    rfl

theorem eq_append_of_spans {code : String} {a call rest : List Char}
    (text : code.toList = a ++ call ++ rest) (called : Spans subprocessCall a call rest) :
    code = String.ofList (a ++ call) ++ String.ofList rest ∧ rest.length < code.utf8ByteSize := by
  obtain ⟨name, rfl, _⟩ := spans_append_char.mp called
  have whole : code = String.ofList (a ++ (name ++ ['('])) ++ String.ofList rest := by
    rw [← String.ofList_append, ← text, String.ofList_toList]
  refine ⟨whole, ?_⟩
  have front := length_le_utf8ByteSize (a ++ (name ++ ['(']))
  have behind := length_le_utf8ByteSize rest
  rw [whole, String.utf8ByteSize_append]
  simp only [List.length_append, List.length_singleton] at front
  omega

theorem argumentsAt_eq {limit : Nat} {code : String} {a call rest : List Char}
    (text : code.toList = a ++ call ++ rest) (called : Spans subprocessCall a call rest)
    (fits : code.utf8ByteSize ≤ limit) :
    argumentsAt limit code (String.ofList (a ++ call)).utf8ByteSize =
      .ok (String.ofList (callArguments rest)) := by
  obtain ⟨whole, short⟩ := eq_append_of_spans text called
  have halves := cut_append (String.ofList (a ++ call)) (String.ofList rest)
  rw [← whole] at halves
  rw [argumentsAt, halves]
  exact argumentsOf_eq (short.trans_le fits)

/-- The arguments of a subprocess call are the longest front of the text behind its bracket that
closes no more brackets than it opens. They are all of that text or stand right before the bracket
that closes one more, and then no text behind the snippet changes them. -/
theorem callArguments_longest_balanced (code : String) (a call rest : List Char)
    (text : code.toList = a ++ call ++ rest) (called : Spans subprocessCall a call rest) :
    let start := (String.ofList (a ++ call)).utf8ByteSize
    let args := callArguments rest
    (∀ limit, code.utf8ByteSize ≤ limit →
      argumentsAt limit code start = .ok (String.ofList args)) ∧
    (args <+: rest ∧ Balanced args ∧ ∀ p, p <+: rest → Balanced p → p <+: args) ∧
    (args = rest ∨ IsClosed args rest) ∧
    (IsClosed args rest → ∀ more : String,
      Spans subprocessCall a call (rest ++ more.toList) ∧
      callArguments (rest ++ more.toList) = args ∧
      ∀ limit, (code ++ more).utf8ByteSize ≤ limit →
        argumentsAt limit (code ++ more) start = .ok (String.ofList args)) := by
  have steady := ScanState.steady_start
  obtain ⟨behind, split, _⟩ := exists_scan_append {} rest
  have front : callArguments rest <+: rest := ⟨behind, split.symm⟩
  refine ⟨fun limit fits => argumentsAt_eq text called fits, ⟨front, ?_, ?_⟩, ?_, ?_⟩
  · exact balanced_iff.mpr ((prefix_scan_iff steady front).mp List.prefix_rfl)
  · intro p within balanced
    exact (prefix_scan_iff steady within).mpr (balanced_iff.mp balanced)
  · refine (scan_eq_or_closed steady rest).imp_right ?_
    rintro ⟨c, tail, cut, closing, code, even⟩
    rw [opened_start] at even
    exact ⟨c, tail, cut, closing, code, by unfold callArguments; omega⟩
  · rintro ⟨c, tail, cut, _⟩ more
    have longer : Spans subprocessCall a call (rest ++ more.toList) :=
      spans_subprocessCall.mpr (spans_subprocessCall.mp called)
    have unread : scan {} rest ≠ rest := fun all => by
      rw [callArguments, all] at cut
      simp at cut
    have same : callArguments (rest ++ more.toList) = callArguments rest := scan_append unread _
    refine ⟨longer, same, fun limit fits => ?_⟩
    rw [← same]
    exact argumentsAt_eq (by rw [String.toList_append, text, List.append_assoc]) longer fits

/-- The first bracket in a literal is not counted, and the call ends before the flag. -/
theorem callArguments_longest_balanced_nested :
    let code := "ß = subprocess.run(['a', \"(\"], env=dict(x=1)) + shell=True"
    let rest := "['a', \"(\"], env=dict(x=1)) + shell=True".toList
    let args := "['a', \"(\"], env=dict(x=1)".toList
    Spans subprocessCall "ß = ".toList (callText "run") rest ∧ Balanced args ∧
    argumentsAt code.utf8ByteSize code 20 = .ok (String.ofList args) ∧
    ∀ more : String, callArguments (rest ++ more.toList) = args := by
  intro code rest args
  have called : Spans subprocessCall "ß = ".toList (callText "run") rest :=
    spans_subprocessCall.mpr ⟨⟨"run", by decide, rfl⟩, by decide⟩
  have list : callArguments rest = args := by decide +kernel
  have start : (String.ofList ("ß = ".toList ++ callText "run")).utf8ByteSize = 20 := by
    decide +kernel
  obtain ⟨whole, ⟨_, balanced, _⟩, ends, stays⟩ :=
    callArguments_longest_balanced code "ß = ".toList (callText "run") rest (by decide +kernel)
      called
  rw [list] at balanced ends
  have closed : IsClosed args rest := ends.resolve_left (by decide +kernel)
  refine ⟨called, balanced, ?_, fun more => ?_⟩
  · rw [← start, ← list]
    exact whole _ le_rfl
  · rw [← list]
    exact (stays (by rw [list]; exact closed) more).2.1

end FixGrader.CommandInjection
