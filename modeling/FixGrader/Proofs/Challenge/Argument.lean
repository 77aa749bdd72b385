import FixGrader.Challenge.SqlInjection
import FixGrader.Proofs.Challenge.Idiom
import FixGrader.Proofs.Challenge.Source
import Mathlib

namespace FixGrader.SqlInjection

open Pattern CharSet Idiom
open CommandInjection (isQuote)
open Source (Reader occurrences isQuote_iff)
open Source.Reader (delimiters notMem_delimiters)

inductive PlainArgument : List Char → Prop
  | literal {q : Char} {body : List Char} (quote : q = '"' ∨ q = '\'')
      (plain : ∀ c ∈ body, c ≠ '\n' ∧ c ≠ q) : PlainArgument (q :: (body ++ [q]))
  | name {c : Char} {rest : List Char} (start : isNameStart c = true)
      (parts : ∀ d ∈ rest, isNamePart d = true) : PlainArgument (c :: rest)

def Blank (s : List Char) : Prop := ∀ c ∈ s, Text.isBlank c = true

/-- What the rule takes for two arguments: a plain one, a comma and anything but blanks. -/
inductive Paired : List Char → Prop
  | mk {s arg t u more : List Char} {c : Char} (before : Blank s) (first : PlainArgument arg)
      (behind : Blank t) (gap : Blank u) (second : Text.isBlank c = false) :
      Paired (s ++ (arg ++ (t ++ ',' :: (u ++ c :: more))))

def callNames : List String := [".execute(", ".executemany("]

variable {a b m : List Char}

theorem spans_plainArgument :
    Spans (anyOf [literal '"', literal '\'', name]) a m b ↔ PlainArgument m := by
  simp only [spans_anyOf, List.mem_cons, List.not_mem_nil, or_false, exists_eq_or_imp,
    exists_eq_left, spans_literal, spans_name]
  constructor
  · rintro (⟨body, rfl, plain⟩ | ⟨body, rfl, plain⟩ | ⟨c, rest, rfl, start, parts⟩)
    · exact .literal (.inl rfl) plain
    · exact .literal (.inr rfl) plain
    · exact .name start parts
  · rintro (⟨rfl | rfl, plain⟩ | ⟨start, parts⟩)
    · exact .inl ⟨_, rfl, plain⟩
    · exact .inr (.inl ⟨_, rfl, plain⟩)
    · exact .inr (.inr ⟨_, _, rfl, start, parts⟩)

theorem spans_callName :
    Spans (lit ".execute" ++ optional (lit "many") ++ char '(') a m b ↔
      ∃ f ∈ callNames, m = f.toList := by
  have plain : ".execute(".toList = ".execute".toList ++ [] ++ ['('] := by decide
  have many : ".executemany(".toList = ".execute".toList ++ "many".toList ++ ['('] := by decide
  simp only [spans_append, spans_char, spans_lit, spans_optional, callNames, List.mem_cons,
    List.not_mem_nil, or_false, exists_eq_or_imp, exists_eq_left, plain, many]
  constructor
  · rintro ⟨_, _, rfl, ⟨_, _, rfl, rfl, rfl | rfl⟩, rfl⟩
    · exact .inr rfl
    · exact .inl rfl
  · rintro (rfl | rfl)
    · exact ⟨_, _, rfl, ⟨_, _, rfl, rfl, .inr rfl⟩, rfl⟩
    · exact ⟨_, _, rfl, ⟨_, _, rfl, rfl, .inl rfl⟩, rfl⟩

theorem boundCall_occursIn_iff {code : String} : boundCall.occursIn code = true ↔
    ∃ f ∈ callNames, ∃ a rest, code.toList = a ++ f.toList ++ rest ∧ Paired rest := by
  rw [occursIn_iff]
  constructor
  · rintro ⟨a, m, b, text, h⟩
    obtain ⟨_, _, rfl, upToGap, last⟩ := spans_append.mp h
    obtain ⟨_, u, rfl, upToComma, gap⟩ := spans_append.mp upToGap
    obtain ⟨_, rfl, upToBlanks⟩ := spans_append_char.mp upToComma
    obtain ⟨_, t, rfl, upToArgument, behind⟩ := spans_append.mp upToBlanks
    obtain ⟨_, arg, rfl, opening, first⟩ := spans_append.mp upToArgument
    obtain ⟨_, s, rfl, call, before⟩ := spans_append.mp opening
    obtain ⟨f, hf, rfl⟩ := spans_callName.mp call
    obtain ⟨c, rfl, second⟩ := spans_one.mp last
    refine ⟨f, hf, a, s ++ (arg ++ (t ++ ',' :: (u ++ c :: b))), by simp [text], ?_⟩
    exact .mk (spans_blanks.mp before) (spans_plainArgument.mp first) (spans_blanks.mp behind)
      (spans_blanks.mp gap) (by simpa [mem] using second)
  · rintro ⟨f, hf, a, _, text, @⟨s, arg, t, u, more, c, before, first, behind, gap, second⟩⟩
    refine ⟨a, f.toList ++ s ++ arg ++ t ++ [','] ++ u ++ [c], more, by simp [text], ?_⟩
    refine .append (.append (.append (.append (.append (.append ?_ ?_) ?_) ?_) ?_) ?_) ?_
    · exact spans_callName.mpr ⟨f, hf, rfl⟩
    · exact spans_blanks.mpr before
    · exact spans_plainArgument.mpr first
    · exact spans_blanks.mpr behind
    · exact spans_char.mpr rfl
    · exact spans_blanks.mpr gap
    · exact spans_one.mpr ⟨c, rfl, by simpa [mem] using second⟩

theorem safe_of_boundCall {code : String} (found : boundCall.occursIn code = true) :
    rule.safe code = true := by
  simp only [rule, occursAny, List.any_cons, found, Bool.true_or]

/-- As the rule cuts the text, a backslash ends the literal that stands first, and a comma follows:
the language takes the quote between them for an escaped one. -/
def splitAtEscape (rest : List Char) : Bool :=
  match rest.dropWhile Text.isBlank with
  | [] => false
  | q :: body =>
    isQuote q && (body.takeWhile (· != q)).getLast? == some '\\' &&
      ((body.dropWhile (· != q)).tail.dropWhile Text.isBlank).head? == some ','

section

variable {s t body more rest : List Char} {c q : Char}

theorem splitAtEscape_eq_true (before : Blank s) (quote : isQuote q = true) (inside : q ∉ body)
    (behind : Blank t) :
    splitAtEscape (s ++ q :: (body ++ '\\' :: q :: (t ++ ',' :: more))) = true := by
  have visible : Text.isBlank q = false := by
    obtain rfl | rfl := isQuote_iff.mp quote
    · decide
    · decide
  have other : '\\' ≠ q := by
    rintro rfl
    revert quote
    decide
  have noQuote : ∀ c ∈ body ++ ['\\'], (c != q) = true := by
    intro c hc
    obtain hc | hc := List.mem_append.mp hc
    · exact bne_iff_ne.mpr fun same => inside (same ▸ hc)
    · exact bne_iff_ne.mpr (List.mem_singleton.mp hc ▸ other)
  have text : body ++ '\\' :: q :: (t ++ ',' :: more) =
      (body ++ ['\\']) ++ q :: (t ++ ',' :: more) := by simp
  rw [splitAtEscape, List.dropWhile_append_of_pos before,
    List.dropWhile_cons_of_neg (by simp [visible]), text]
  -- The scans for the quote stop behind the backslash, the scan for a visible character at the comma.
  simp only [List.takeWhile_append_of_pos noQuote, List.dropWhile_append_of_pos noQuote,
    List.takeWhile_cons_of_neg, List.dropWhile_cons_of_neg, bne_self_eq_false, Bool.false_eq_true,
    not_false_iff, List.tail_cons, List.dropWhile_append_of_pos behind, quote]
  simp [List.dropWhile_cons_of_neg (show ¬Text.isBlank ',' = true by decide)]

theorem Blank.plain (h : Blank s) : ∀ c ∈ s, c ∉ delimiters :=
  fun c hc => notMem_delimiters Text.isBlank (by decide) (h c hc)

theorem literal_comma_or_split (more : List Char) (before : Blank s) (quote : isQuote q = true)
    (inside : q ∉ body) (behind : Blank t) :
    (({} : Reader).behindArgument (q :: (body ++ q :: (t ++ ',' :: more)))).head? = some ',' ∨
      splitAtEscape (s ++ q :: (body ++ q :: (t ++ ',' :: more))) = true := by
  have within : (({} : Reader).isOutermost && Reader.endsArgument q) = false := by
    obtain rfl | rfl := isQuote_iff.mp quote
    · decide
    · decide
  have opening : ({} : Reader).next q = { mode := .opened q } := by
    simp [Reader.next, Reader.nextInCode, quote]
  rw [Reader.behindArgument_cons within, opening]
  -- Only behind a backslash is the closing quote of the rule another character for the language.
  cases body with
  | nil =>
    have empty : ({ mode := .opened q } : Reader).next q = { mode := .paired q } := by
      simp [Reader.next]
    rw [List.nil_append, Reader.behindArgument_cons rfl, empty,
      Reader.behindArgument_paired quote behind.plain]
    exact .inl rfl
  | cons c body =>
    obtain ⟨other, others⟩ := List.ne_and_not_mem_of_not_mem_cons inside
    have start : ({ mode := .opened q } : Reader).next c =
        { mode := .literal q (c == '\\') } := by simp [Reader.next, other.symm]
    obtain ⟨escaped, same, ends⟩ := Reader.behindArgument_literal
      (q :: (t ++ ',' :: more)) eq_of_beq others
    rw [List.cons_append, Reader.behindArgument_cons rfl, start, same,
      Reader.behindArgument_cons rfl]
    cases escaped with
    | true =>
      obtain ⟨w, cut⟩ := ends rfl
      have noQuote : q ∉ w := fun mem => inside (cut ▸ List.mem_append_left _ mem)
      have text := congrArg (· ++ q :: (t ++ ',' :: more)) cut
      simp only [List.cons_append, List.append_assoc, List.nil_append] at text
      rw [text]
      exact .inr (splitAtEscape_eq_true before quote noQuote behind)
    | false =>
      have closing : ({ mode := .literal q false } : Reader).next q = {} := by
        simp [Reader.next]
      rw [closing, Reader.behindArgument_plain behind.plain, Reader.behindArgument_comma rfl]
      exact .inl rfl

theorem Paired.comma_or_split (h : Paired rest) :
    (({} : Reader).behindArgument rest).head? = some ',' ∨ splitAtEscape rest = true := by
  obtain @⟨s, arg, t, u, more, d, before, first, behind, _, _⟩ := h
  rw [Reader.behindArgument_plain before.plain]
  cases first with
  | @name c parts start others =>
    have plain : ∀ d ∈ c :: parts, d ∉ delimiters := by
      refine List.forall_mem_cons.mpr ⟨notMem_delimiters isNameStart (by decide) start, fun d hd => ?_⟩
      exact notMem_delimiters isNamePart (by decide) (others d hd)
    rw [Reader.behindArgument_plain plain, Reader.behindArgument_plain behind.plain,
      Reader.behindArgument_comma rfl]
    exact .inl rfl
  | @literal q body quote plain =>
    have inside : q ∉ body := fun mem => (plain q mem).2 rfl
    have split := literal_comma_or_split (u ++ d :: more) before
      (isQuote_iff.mpr quote) inside behind
    simpa using split

end

theorem boundText_occursIn {code : String}
    (noText : ∀ o ∈ occurrences "text(".toList code.toList, wordBefore o.1 = true) :
    boundText.occursIn code = false := by
  by_contra found
  have called : (call "text").occursIn code = true :=
    occursIn_left (occursIn_left (occursIn_left (occursIn_left (occursIn_left (occursIn_left
      (Bool.not_eq_false _ ▸ found))))))
  obtain ⟨a, b, text, edge⟩ := call_occursIn_iff.mp called
  have name : "text(".toList = "text".toList ++ ['('] := by decide
  have inner := noText (a, b) (Source.mem_occurrences.mpr (by rw [name, text]))
  have letter : wordAfter ("text".toList ++ ['('] ++ b) = true := by
    simp [wordAfter]
    decide
  exact edge (inner.trans letter.symm)

/-- A snippet whose query calls have no comma behind the first argument scores nothing, whatever
that argument is, if it has no text clause and no literal that ends for the rule at an escaped
quote. -/
theorem sole_argument_zero {code : String}
    (sole : ∀ f ∈ callNames, ∀ o ∈ occurrences f.toList code.toList,
      (({} : Reader).behindArgument o.2).head? ≠ some ',')
    (whole : ∀ f ∈ callNames, ∀ o ∈ occurrences f.toList code.toList, splitAtEscape o.2 = false)
    (noText : ∀ o ∈ occurrences "text(".toList code.toList, wordBefore o.1 = true) :
    rule.safe code = false ∧ (rule.judge code).band = .zero := by
  have noCall : boundCall.occursIn code = false := by
    by_contra found
    obtain ⟨f, hf, a, rest, text, paired⟩ :=
      boundCall_occursIn_iff.mp (Bool.not_eq_false _ ▸ found)
    have place : (a, rest) ∈ occurrences f.toList code.toList := Source.mem_occurrences.mpr text
    obtain comma | split := paired.comma_or_split
    · exact sole f hf _ place comma
    · have unsplit := whole f hf _ place
      rw [split] at unsplit
      cases unsplit
  have notSafe : rule.safe code = false := by
    simp [rule, occursAny, noCall, boundText_occursIn noText]
  exact ⟨notSafe, Rule.judge_band_zero_iff.mpr notSafe⟩

theorem sole_argument_zero_nested :
    let code := "cursor.execute(\"SELECT name, age FROM t WHERE id = \" + str(max(a, b)))"
    rule.safe code = false ∧ (rule.judge code).band = .zero :=
  sole_argument_zero (by decide +kernel) (by decide +kernel) (by decide +kernel)

/-- A comma with nothing behind it counts as a second argument. -/
theorem trailing_comma_full :
    let code := "db.execute(query,)"
    (∀ f ∈ callNames, ∀ o ∈ occurrences f.toList code.toList,
      ({} : Reader).behindArgument o.2 = [',', ')']) ∧
    occurrences "text(".toList code.toList = [] ∧
    rule.safe code = true ∧ (rule.judge code).band = .full := by
  refine ⟨by decide +kernel, by decide +kernel, ?_, ?_⟩
  · cbv
  · cbv

end FixGrader.SqlInjection
