import FixGrader.Proofs.Challenge.Source
import FixGrader.Proofs.Challenge.Subprocess
import Mathlib

namespace FixGrader.Source.Reader

open CommandInjection (isOpening isClosing isQuote Closes)

def arguments (r : Reader) : List Char → List Char
  | [] => []
  | c :: rest => if r.isOutermost && isClosing c then [] else c :: (r.next c).arguments rest

def behind (r : Reader) (s : List Char) : Reader := s.foldl next r

/-- A quote or bracket in a comment, or a character behind a lone quote in a long literal: to a scan
for quotes and brackets it looks like one of the code. -/
def misleads (r : Reader) (c : Char) : Bool :=
  match r.mode with
  | .comment => isQuote c || isOpening c || isClosing c
  | .long q _ 1 => c != q
  | _ => false

def isMisled (r : Reader) : List Char → Bool
  | [] => false
  | c :: s => r.misleads c || (r.next c).isMisled s

theorem exists_arguments_append (r : Reader) (s : List Char) :
    ∃ tail, s = r.arguments s ++ tail ∧ Closes tail ∧
      (tail ≠ [] → (r.behind (r.arguments s)).isOutermost = true) := by
  induction s generalizing r with
  | nil => exact ⟨[], rfl, by simp [Closes], by simp⟩
  | cons c s ih =>
    rw [arguments]
    split
    next closed =>
      rw [Bool.and_eq_true] at closed
      exact ⟨c :: s, rfl, by simpa [Closes] using closed.2, fun _ => closed.1⟩
    next =>
      obtain ⟨tail, cut, closes, outermost⟩ := ih (r.next c)
      exact ⟨tail, congrArg (c :: ·) cut, closes, outermost⟩

end FixGrader.Source.Reader

namespace FixGrader.CommandInjection

open Pattern CharSet Idiom
open Source (Reader occurrences mem_occurrences)
open Source.Reader (delimiters notMem_delimiters)

/-- Where the scan is when it is in step with the reader. A lone quote in a long literal ends it for
the scan, and a second one opens it again. -/
inductive Tracks : Reader → ScanState → Prop
  | code {d} : Tracks ⟨.code, d⟩ ⟨d, none, false⟩
  | opened {q d} (quote : isQuote q = true) : Tracks ⟨.opened q, d⟩ ⟨d, some q, false⟩
  | paired {q d} (quote : isQuote q = true) : Tracks ⟨.paired q, d⟩ ⟨d, none, false⟩
  | literal {q e d} (quote : isQuote q = true) : Tracks ⟨.literal q e, d⟩ ⟨d, some q, e⟩
  | long {q e d} (quote : isQuote q = true) : Tracks ⟨.long q e 0, d⟩ ⟨d, some q, e⟩
  | longOnce {q d} (quote : isQuote q = true) : Tracks ⟨.long q false 1, d⟩ ⟨d, none, false⟩
  | longTwice {q d} (quote : isQuote q = true) : Tracks ⟨.long q false 2, d⟩ ⟨d, some q, false⟩
  | comment {d} : Tracks ⟨.comment, d⟩ ⟨d, none, false⟩

variable {r : Reader} {s : ScanState} {c q : Char} {d : Nat}

theorem next?_within (quote : isQuote q = true) (c : Char) :
    (⟨d, some q, false⟩ : ScanState).next? c =
      some (if c = q then ⟨d, none, false⟩ else ⟨d, some q, c == '\\'⟩) := by
  by_cases same : c = q
  · subst same
    have other : (c == '\\') = false := by
      obtain rfl | rfl := Source.isQuote_iff.mp quote <;> decide
    simp [ScanState.next?, other]
  · by_cases escapes : c = '\\'
    · subst escapes
      simp [ScanState.next?, same]
    · simp [ScanState.next?, same, escapes]

theorem tracks_nextInCode (depth : r.depth = d) (within : (d == 0 && isClosing c) = false) :
    ∃ t, (⟨d, none, false⟩ : ScanState).next? c = some t ∧ Tracks (r.nextInCode c) t := by
  obtain ⟨mode, n⟩ := r
  obtain rfl : n = d := depth
  by_cases quote : isQuote c = true
  · exact ⟨⟨n, some c, false⟩, by simp [ScanState.next?, quote], by
      simpa [Reader.nextInCode, quote] using .opened quote⟩
  by_cases hash : c = '#'
  · subst hash
    exact ⟨⟨n, none, false⟩, rfl, .comment⟩
  by_cases opening : isOpening c = true
  · exact ⟨⟨n + 1, none, false⟩, by simp [ScanState.next?, quote, opening], by
      simpa [Reader.nextInCode, quote, hash, opening] using .code⟩
  by_cases closing : isClosing c = true
  · cases n with
    | zero => simp [closing] at within
    | succ n =>
      exact ⟨⟨n, none, false⟩, by simp [ScanState.next?, quote, opening, closing], by
        simpa [Reader.nextInCode, quote, hash, opening, closing] using .code⟩
  · exact ⟨⟨n, none, false⟩, by simp [ScanState.next?, quote, opening, closing], by
      simpa [Reader.nextInCode, quote, hash, opening, closing] using .code⟩

theorem Tracks.next (tracks : Tracks r s) (faithful : r.misleads c = false)
    (within : (r.isOutermost && isClosing c) = false) :
    ∃ t, s.next? c = some t ∧ Tracks (r.next c) t := by
  cases tracks with
  | code => exact tracks_nextInCode rfl (by simpa [Reader.isOutermost] using within)
  | @opened q d quote =>
    refine ⟨_, next?_within quote c, ?_⟩
    by_cases same : c = q
    · simpa [Reader.next, same] using .paired quote
    · simpa [Reader.next, same] using .literal quote
  | @paired q d quote =>
    by_cases same : c = q
    · subst same
      exact ⟨⟨d, some c, false⟩, by simp [ScanState.next?, quote], by
        simpa [Reader.next] using .long quote⟩
    · simpa [Reader.next, same] using
        tracks_nextInCode (r := ⟨.paired q, d⟩) rfl (by simpa [Reader.isOutermost] using within)
  | @literal q escaped d quote =>
    cases escaped with
    | true => exact ⟨_, rfl, .literal quote⟩
    | false =>
      refine ⟨_, next?_within quote c, ?_⟩
      by_cases same : c = q
      · simpa [Reader.next, same] using .code
      · simpa [Reader.next, same] using .literal quote
  | @long q escaped d quote =>
    cases escaped with
    | true => exact ⟨_, rfl, .long quote⟩
    | false =>
      refine ⟨_, next?_within quote c, ?_⟩
      by_cases same : c = q
      · simpa [Reader.next, same] using .longOnce quote
      · simpa [Reader.next, same] using .long quote
  | @longOnce q d quote =>
    obtain rfl : c = q := by simpa [Reader.misleads] using faithful
    exact ⟨⟨d, some c, false⟩, by simp [ScanState.next?, quote], by
      simpa [Reader.next] using .longTwice quote⟩
  | @longTwice q d quote =>
    refine ⟨_, next?_within quote c, ?_⟩
    by_cases same : c = q
    · simpa [Reader.next, same] using .code
    · simpa [Reader.next, same] using .long quote
  | @comment d =>
    simp only [Reader.misleads, Bool.or_eq_false_iff] at faithful
    obtain ⟨⟨noQuote, noOpening⟩, noClosing⟩ := faithful
    refine ⟨⟨d, none, false⟩, by simp [ScanState.next?, noQuote, noOpening, noClosing], ?_⟩
    by_cases feed : c = '\n'
    · simpa [Reader.next, feed] using .code
    · simpa [Reader.next, feed] using .comment

theorem Tracks.eq_of_isOutermost (tracks : Tracks r s) (outermost : r.isOutermost = true) :
    s = {} := by
  cases tracks with
  | code | paired =>
    obtain rfl : _ = 0 := by simpa [Reader.isOutermost] using outermost
    rfl
  | _ => simp [Reader.isOutermost] at outermost

theorem Tracks.scan_append {x v w : List Char} (tracks : Tracks r s)
    (faithful : r.isMisled x = false) (within : r.arguments (x ++ w) = x ++ v) :
    ∃ t, scan s (x ++ w) = x ++ scan t w ∧ Tracks (r.behind x) t := by
  -- On the text that is read: the step lemma keeps both in step, and the call stays open.
  induction x generalizing r s with
  | nil => exact ⟨s, rfl, tracks⟩
  | cons c x ih =>
    rw [Reader.isMisled, Bool.or_eq_false_iff] at faithful
    rw [List.cons_append, Reader.arguments] at within
    split at within
    · cases within
    next open_ =>
      obtain ⟨_, within⟩ := List.cons.inj within
      obtain ⟨t, step, next⟩ := tracks.next faithful.1 (Bool.eq_false_iff.mpr open_)
      obtain ⟨u, rest, behind⟩ := ih next faithful.2 within
      refine ⟨u, ?_, behind⟩
      rw [List.cons_append, scan, step]
      exact congrArg (c :: ·) rest

theorem scan_plain {m w : List Char} (plain : ∀ c ∈ m, c ∉ delimiters) :
    scan {} (m ++ w) = m ++ scan {} w := by
  induction m with
  | nil => rfl
  | cons c m ih =>
    obtain ⟨first, others⟩ := List.forall_mem_cons.mp plain
    have step : ({} : ScanState).next? c = some {} := by
      simp only [delimiters, List.mem_cons, List.not_mem_nil, or_false, not_or] at first
      simp [ScanState.next?, isQuote, isOpening, isClosing, first]
    rw [List.cons_append, scan, step]
    exact congrArg (c :: ·) (ih others)

theorem scan_closes {tail : List Char} (closes : Closes tail) : scan {} tail = [] := by
  cases tail with
  | nil => rfl
  | cons c tail =>
    have closing : isClosing c = true := closes c rfl
    have step : ({} : ScanState).next? c = none := by
      simp only [isClosing, Bool.or_eq_true, beq_iff_eq] at closing
      obtain (rfl | rfl) | rfl := closing <;> rfl
    rw [scan, step]

theorem IsFlag.plain {m : List Char} (flag : IsFlag m) : ∀ c ∈ m, c ∉ delimiters := by
  obtain ⟨s, t, rfl, blank⟩ := flag
  have blanks : ∀ c ∈ s ++ t, c ∉ delimiters :=
    fun c hc => notMem_delimiters Text.isBlank (by decide) (blank c hc)
  have others : ("shell".toList ++ ['='] ++ "True".toList).all (!delimiters.contains ·) = true := by
    decide
  have letters : ∀ c ∈ "shell".toList ++ ['='] ++ "True".toList, c ∉ delimiters :=
    fun c hc => by simpa using List.all_eq_true.mp others c hc
  simp only [List.mem_append] at blanks letters ⊢
  rintro c ((((hc | hc) | hc) | hc) | hc)
  · exact letters c (.inl (.inl hc))
  · exact blanks c (.inl hc)
  · exact letters c (.inl (.inr hc))
  · exact blanks c (.inr hc)
  · exact letters c (.inr hc)

/-- Among the arguments of the call with `rest` behind its bracket there is the flag, between `x`
and `y`: a word of its own outside of all brackets, literals and comments. -/
structure FlagAt (rest x m y : List Char) : Prop where
  list : ({} : Reader).arguments rest = x ++ m ++ y
  outermost : (({} : Reader).behind x).isOutermost = true
  flag : IsFlag m
  left : wordBefore x = false
  right : wordAfter y = false

variable {rest x m y : List Char}

theorem FlagAt.flagged (seen : FlagAt rest x m y) (faithful : ({} : Reader).isMisled x = false) :
    Flagged (callArguments rest) := by
  obtain ⟨tail, cut, closes, _⟩ := ({} : Reader).exists_arguments_append rest
  rw [seen.list] at cut
  have text : rest = x ++ (m ++ (y ++ tail)) := by simpa using cut
  have within : ({} : Reader).arguments (x ++ (m ++ (y ++ tail))) = x ++ (m ++ y) := by
    rw [← text, seen.list, List.append_assoc]
  obtain ⟨t, scanned, tracks⟩ := Tracks.code.scan_append faithful within
  -- At the flag the scan is outside of all brackets and literals as well, so it goes on behind it.
  obtain rfl := tracks.eq_of_isOutermost seen.outermost
  obtain ⟨more, front, ends⟩ := exists_scan_append {} (y ++ tail)
  refine ⟨x, m, scan {} (y ++ tail), ?_, seen.flag, seen.left, ?_⟩
  · rw [callArguments, text, List.append_assoc, ← scan_plain seen.flag.plain]
    exact scanned
  · calc wordAfter (scan {} (y ++ tail))
      _ = wordAfter (y ++ tail) := by rw [← ends.wordAfter, ← front]
      _ = wordAfter y := closes.wordAfter y
      _ = false := seen.right

theorem callArguments_eq (faithful : ({} : Reader).isMisled (({} : Reader).arguments rest) = false) :
    callArguments rest = ({} : Reader).arguments rest := by
  obtain ⟨tail, cut, closes, outermost⟩ := ({} : Reader).exists_arguments_append rest
  have within : ({} : Reader).arguments (({} : Reader).arguments rest ++ tail) =
      ({} : Reader).arguments rest ++ [] := by rw [← cut, List.append_nil]
  obtain ⟨t, scanned, tracks⟩ := Tracks.code.scan_append faithful within
  have ended : scan t tail = [] := by
    by_cases none_ : tail = []
    · rw [none_]
      rfl
    · rw [tracks.eq_of_isOutermost (outermost none_), scan_closes closes]
  rw [ended, List.append_nil, ← cut] at scanned
  exact scanned

def calls (code : List Char) : List (List Char) :=
  callees.flatMap fun f =>
    ((occurrences (callText f) code).filter fun o => !wordBefore o.1).map (·.2)

theorem mem_calls {code : List Char} :
    rest ∈ calls code ↔ ∃ a call, code = a ++ call ++ rest ∧ Spans subprocessCall a call rest := by
  simp only [calls, List.mem_flatMap, List.mem_map, List.mem_filter, Bool.not_eq_true',
    Prod.exists, mem_occurrences, spans_subprocessCall]
  constructor
  · rintro ⟨f, hf, a, _, ⟨text, start⟩, rfl⟩
    exact ⟨a, _, text, ⟨f, hf, rfl⟩, start⟩
  · rintro ⟨a, _, text, ⟨f, hf, rfl⟩, start⟩
    exact ⟨f, hf, a, rest, ⟨text, start⟩, rfl⟩

theorem safe_iff {code : String} : rule.safe code = true ↔
    ∃ rest ∈ calls code.toList, ¬Flagged (callArguments rest) := by
  simp only [mem_calls]
  refine hasShellFreeCall_iff.trans ⟨?_, ?_⟩
  · rintro ⟨a, call, rest, text, called, free⟩
    exact ⟨rest, ⟨a, call, text, called⟩, free⟩
  · rintro ⟨rest, ⟨a, call, text, called⟩, free⟩
    exact ⟨a, call, rest, text, called, free⟩

/-- A snippet scores nothing if each of its subprocess calls has the flag among its arguments and no
comment or long literal before the flag misleads the scan. Where none in the arguments does, the rule
takes a call for one without a shell exactly if the language finds no flag in it. -/
theorem flagged_calls_zero (code : String) :
    ((∀ rest ∈ calls code.toList,
        ∃ x m y, FlagAt rest x m y ∧ ({} : Reader).isMisled x = false) →
      rule.safe code = false ∧ (rule.judge code).band = .zero) ∧
    ((∀ rest ∈ calls code.toList,
        ({} : Reader).isMisled (({} : Reader).arguments rest) = false) →
      (rule.safe code = true ↔
        ∃ rest ∈ calls code.toList, ¬Flagged (({} : Reader).arguments rest))) := by
  constructor
  · intro each
    have notSafe : rule.safe code = false := by
      by_contra safe
      obtain ⟨rest, called, free⟩ := safe_iff.mp (Bool.not_eq_false _ ▸ safe)
      obtain ⟨x, m, y, seen, faithful⟩ := each rest called
      exact free (seen.flagged faithful)
    exact ⟨notSafe, Rule.judge_band_zero_iff.mpr notSafe⟩
  · intro each
    rw [safe_iff]
    refine exists_congr fun rest => and_congr_right fun called => ?_
    rw [callArguments_eq (each rest called)]

theorem flagged_calls_zero_nested :
    let list := "['ls', ')'],  # as before\n    cwd=join(base, 'x'), ".toList
    let code := "subprocess.run(['ls', ')'],  # as before\n    cwd=join(base, 'x'), shell = True)"
    calls code.toList = [list ++ "shell = True".toList ++ ")".toList] ∧
    rule.safe code = false ∧ (rule.judge code).band = .zero := by
  intro list code
  have called : calls code.toList = [list ++ "shell = True".toList ++ ")".toList] := by
    decide +kernel
  have seen : FlagAt (list ++ "shell = True".toList ++ ")".toList) list "shell = True".toList [] :=
    ⟨by decide +kernel, by decide +kernel, ⟨[' '], [' '], by decide, by simp; decide⟩,
      by decide +kernel, by decide⟩
  refine ⟨called, (flagged_calls_zero code).1 fun rest behind => ?_⟩
  rw [called, List.mem_singleton] at behind
  exact ⟨list, _, [], behind ▸ seen, by decide +kernel⟩

/-- For the scan a lone quote ends a long literal, and the bracket behind it closes the call. -/
theorem long_literal_mixed :
    let list := "\"\"\"echo \"done :)\" \"\"\", ".toList
    let code := "subprocess.run(\"\"\"echo \"done :)\" \"\"\", shell=True)"
    calls code.toList = [list ++ "shell=True".toList ++ ")".toList] ∧
    FlagAt (list ++ "shell=True".toList ++ ")".toList) list "shell=True".toList [] ∧
    callArguments (list ++ "shell=True".toList ++ ")".toList) =
      "\"\"\"echo \"done :".toList ∧
    rule.safe code = true ∧ (rule.judge code).band = .mixed := by
  refine ⟨by decide +kernel, ?_, by decide +kernel, ?_, ?_⟩
  · exact ⟨by decide +kernel, by decide +kernel, ⟨[], [], by decide, by simp⟩, by decide +kernel,
      by decide⟩
  · cbv
  · cbv

end FixGrader.CommandInjection
