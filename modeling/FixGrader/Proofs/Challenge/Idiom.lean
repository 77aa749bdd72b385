import FixGrader.Challenge.Idiom
import FixGrader.Proofs.Pattern.Span
import Mathlib

namespace FixGrader.Idiom

open Pattern CharSet

variable {a b m : List Char} {c q : Char}

theorem spans_blanks : Spans blanks a m b ↔ ∀ c ∈ m, Text.isBlank c = true := spans_run

theorem spans_upTo {stops : String} :
    Spans (upTo stops) a m b ↔ ∀ c ∈ m, c ≠ '\n' ∧ c ∉ stops.toList := by
  rw [upTo, spans_run]
  simp [mem_single, mem_oneOf]

theorem spans_literal : Spans (literal q) a m b ↔
    ∃ body, m = q :: (body ++ [q]) ∧ ∀ c ∈ body, c ≠ '\n' ∧ c ≠ q := by
  simp only [literal, spans_append, spans_char, spans_upTo, String.toList_singleton,
    List.mem_singleton]
  constructor
  · rintro ⟨_, _, rfl, ⟨_, body, rfl, rfl, plain⟩, rfl⟩
    exact ⟨body, rfl, plain⟩
  · rintro ⟨body, rfl, plain⟩
    exact ⟨q :: body, [q], rfl, ⟨[q], body, rfl, rfl, plain⟩, rfl⟩

/-- An ASCII letter or an underscore. -/
def isNameStart (c : Char) : Bool := letter.mem c || c == '_'

def isNamePart (c : Char) : Bool := Unicode.isWord c || c == '.'

theorem spans_name : Spans name a m b ↔
    ∃ c rest, m = c :: rest ∧ isNameStart c = true ∧ ∀ d ∈ rest, isNamePart d = true := by
  have start : ∀ c, (union letter (single '_')).mem c = isNameStart c := fun c => by
    rw [mem_union, mem_single]
    rfl
  have part : ∀ c, (union word (single '.')).mem c = isNamePart c := fun c => by
    rw [mem_union, mem_single]
    rfl
  simp only [name, spans_append, spans_one, spans_run, start, part]
  constructor
  · rintro ⟨_, rest, rfl, ⟨c, rfl, first⟩, others⟩
    exact ⟨c, rest, rfl, first, others⟩
  · rintro ⟨c, rest, rfl, first, others⟩
    exact ⟨[c], rest, rfl, ⟨c, rfl, first⟩, others⟩

theorem spans_call {f : String} : Spans (call f) a m b ↔
    m = f.toList ++ ['('] ∧ wordBefore a ≠ wordAfter (m ++ b) := by
  simp only [call, spans_append, spans_wordBoundary, spans_lit, spans_char]
  constructor
  · rintro ⟨_, _, rfl, ⟨_, _, rfl, ⟨rfl, edge⟩, rfl⟩, rfl⟩
    exact ⟨rfl, by simpa using edge⟩
  · rintro ⟨rfl, edge⟩
    exact ⟨f.toList, ['('], rfl, ⟨[], f.toList, rfl, ⟨rfl, by simpa using edge⟩, rfl⟩, rfl⟩

theorem call_occursIn_iff {f code : String} : (call f).occursIn code = true ↔
    ∃ a b, code.toList = a ++ (f.toList ++ ['(']) ++ b ∧
      wordBefore a ≠ wordAfter (f.toList ++ ['('] ++ b) := by
  rw [occursIn_iff]
  constructor
  · rintro ⟨a, m, b, text, h⟩
    obtain ⟨rfl, edge⟩ := spans_call.mp h
    exact ⟨a, b, text, edge⟩
  · rintro ⟨a, b, text, edge⟩
    exact ⟨a, _, b, text, spans_call.mpr ⟨rfl, edge⟩⟩

theorem spans_anyOf {ps : List Pattern} : Spans (anyOf ps) a m b ↔ ∃ p ∈ ps, Spans p a m b := by
  induction ps with
  | nil => simp [anyOf, spans_one, mem]
  | cons p ps ih =>
    cases ps with
    | nil => simp [anyOf]
    | cons p' ps =>
      rw [anyOf, spans_alt, ih]
      · simp
      · simp

theorem spans_keyword {words : List String} : Spans (keyword words) a m b ↔
    (∃ w ∈ words, Folded w.toList m) ∧ wordBefore a ≠ wordAfter (m ++ b) ∧
      wordBefore (a ++ m) ≠ wordAfter b := by
  simp only [keyword, spans_append, spans_wordBoundary, spans_anyOf, List.mem_map]
  constructor
  · rintro ⟨_, _, rfl, ⟨_, _, rfl, ⟨rfl, left⟩, _, ⟨w, hw, rfl⟩, folded⟩, rfl, right⟩
    refine ⟨⟨w, hw, ?_⟩, by simpa using left, by simpa using right⟩
    simpa using spans_litFolded.mp folded
  · rintro ⟨⟨w, hw, folded⟩, left, right⟩
    exact ⟨m, [], by simp, ⟨[], m, rfl, ⟨rfl, by simpa using left⟩, _, ⟨w, hw, rfl⟩,
      spans_litFolded.mpr folded⟩, rfl, by simpa using right⟩

theorem isAlpha_iff : c.isAlpha = true ↔
    65 ≤ c.toNat ∧ c.toNat ≤ 90 ∨ 97 ≤ c.toNat ∧ c.toNat ≤ 122 := by
  simp only [Char.isAlpha, Char.isUpper, Char.isLower, Bool.or_eq_true, decide_eq_true_eq,
    Bool.and_eq_true, ge_iff_le, UInt32.le_iff_toNat_le]
  rfl

theorem letter_mem : letter.mem c = c.isAlpha := by
  rw [Bool.eq_iff_iff, isAlpha_iff, letter, mem_union]
  simp [mem]

theorem spans_tagStart : Spans tagStart a m b ↔ ∃ l, m = ['<', l] ∧ l.isAlpha = true := by
  simp only [tagStart, spans_append, spans_char, spans_one, letter_mem]
  constructor
  · rintro ⟨_, _, rfl, rfl, l, rfl, tag⟩
    exact ⟨l, rfl, tag⟩
  · rintro ⟨l, rfl, tag⟩
    exact ⟨['<'], [l], rfl, rfl, l, rfl, tag⟩

theorem isAscii_of_isAlpha (alpha : c.isAlpha = true) : c.toNat < 0x80 := by
  have := isAlpha_iff.mp alpha
  omega

theorem isWord_of_isAlpha (alpha : c.isAlpha = true) : Unicode.isWord c = true := by
  have ascii := isAscii_of_isAlpha alpha
  simp [Unicode.isWord, Unicode.isAscii, ascii, Unicode.isAsciiWord, Char.isAlphanum, alpha]

theorem isAlpha_of_toLower (alpha : c.toLower.isAlpha = true) : c.isAlpha = true := by
  rw [Char.toLower] at alpha
  split at alpha
  · case isTrue upper => exact Bool.or_eq_true_iff.mpr (.inl (decide_eq_true upper))
  · exact alpha

theorem folded_toLower (alpha : c.isAlpha = true) :
    (folded (single c.toLower)).mem c = true := by
  have ascii := isAscii_of_isAlpha alpha
  simp [mem, Unicode.caseVariants, Unicode.asciiVariants, ascii, alpha, single]

/-- A word of ASCII letters is found in any letter case, where no word character stands beside it. -/
theorem spans_keyword_of_toLower {words : List String} {s : String} {w : List Char}
    (listed : s ∈ words) (same : w.map Char.toLower = s.toList)
    (letters : s.toList ≠ [] ∧ s.toList.all Char.isAlpha = true)
    (left : wordBefore a = false) (right : wordAfter b = false) : Spans (keyword words) a w b := by
  have alpha : ∀ c ∈ w, c.isAlpha = true := by
    intro c hc
    apply isAlpha_of_toLower
    exact List.all_eq_true.mp letters.2 _ (same ▸ List.mem_map_of_mem hc)
  have folds : Folded s.toList w := by
    rw [← same, Folded, List.forall₂_map_left_iff, List.forall₂_same]
    exact fun c hc => folded_toLower (alpha c hc)
  have filled : w ≠ [] := by
    rintro rfl
    exact letters.1 same.symm
  refine spans_keyword.mpr ⟨⟨s, listed, folds⟩, ?_, ?_⟩
  · obtain ⟨c, w, rfl⟩ := List.exists_cons_of_ne_nil filled
    have word := isWord_of_isAlpha (alpha c List.mem_cons_self)
    simp [left, wordAfter, word]
  · obtain ⟨w, c, rfl⟩ := List.eq_nil_or_concat w |>.resolve_left filled
    have word := isWord_of_isAlpha (alpha c (by simp))
    simp [right, wordBefore, word]

theorem occursAny_eq_true {ps : List Pattern} {code : String} :
    occursAny ps code = true ↔ ∃ p ∈ ps, p.occursIn code = true := List.any_eq_true

end FixGrader.Idiom
