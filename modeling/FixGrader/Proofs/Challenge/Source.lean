import FixGrader.Challenge.CommandInjection
import Mathlib.Data.List.Basic

namespace FixGrader.Source

open CommandInjection (isOpening isClosing isQuote)

/-- What a reader is in. Behind one quote `opened` and behind two `paired` it is not settled yet
whether a literal is empty, on one line or a long one; `long` counts the quotes just read. -/
inductive Mode where
  | code
  | opened (quote : Char)
  | paired (quote : Char)
  | literal (quote : Char) (escaped : Bool)
  | long (quote : Char) (escaped : Bool) (quotes : Nat)
  | comment
  deriving DecidableEq

structure Reader where
  mode : Mode := .code
  depth : Nat := 0
  deriving DecidableEq

theorem isQuote_iff {q : Char} : isQuote q = true ↔ q = '"' ∨ q = '\'' := by simp [isQuote]

namespace Reader

def nextInCode (r : Reader) (c : Char) : Reader :=
  if isQuote c then { r with mode := .opened c }
  else if c == '#' then { r with mode := .comment }
  else if isOpening c then { mode := .code, depth := r.depth + 1 }
  else if isClosing c then { mode := .code, depth := r.depth - 1 }
  else { r with mode := .code }

def next (r : Reader) (c : Char) : Reader :=
  match r.mode with
  | .code => r.nextInCode c
  | .opened q =>
    if c == q then { r with mode := .paired q } else { r with mode := .literal q (c == '\\') }
  | .paired q => if c == q then { r with mode := .long q false 0 } else r.nextInCode c
  | .literal q escaped =>
    if escaped then { r with mode := .literal q false }
    else if c == q then { r with mode := .code }
    else { r with mode := .literal q (c == '\\') }
  | .long q escaped quotes =>
    if escaped then { r with mode := .long q false 0 }
    else if c == q then
      if quotes == 2 then { r with mode := .code } else { r with mode := .long q false (quotes + 1) }
    else { r with mode := .long q (c == '\\') 0 }
  | .comment => if c == '\n' then { r with mode := .code } else r

def isOutermost (r : Reader) : Bool :=
  r.depth == 0 && match r.mode with
    | .code | .paired _ => true
    | _ => false

def endsArgument (c : Char) : Bool := c == ',' || isClosing c

/-- The text from the end of the first argument on: the comma behind it or the bracket that closes
the call. -/
def behindArgument (r : Reader) : List Char → List Char
  | [] => []
  | c :: rest =>
    if r.isOutermost && endsArgument c then c :: rest
    else (r.next c).behindArgument rest

def delimiters : List Char := ['"', '\'', '(', ')', '[', ']', '{', '}', '#', ',']

variable {c q : Char} {s rest : List Char}

theorem notMem_delimiters (P : Char → Bool) (outside : (delimiters.all (!P ·)) = true)
    (h : P c = true) : c ∉ delimiters := by
  intro mem
  have other := List.all_eq_true.mp outside c mem
  rw [h] at other
  cases other

theorem nextInCode_eq (r : Reader) (plain : c ∉ delimiters) :
    r.nextInCode c = { r with mode := .code } := by
  simp only [delimiters, List.mem_cons, List.not_mem_nil, or_false, not_or] at plain
  simp [nextInCode, isQuote, isOpening, isClosing, plain]

theorem behindArgument_cons {r : Reader}
    (inside : (r.isOutermost && endsArgument c) = false) :
    r.behindArgument (c :: rest) = (r.next c).behindArgument rest := by
  rw [behindArgument, inside]
  rfl

theorem behindArgument_comma {r : Reader} (outermost : r.isOutermost = true) :
    r.behindArgument (',' :: rest) = ',' :: rest := by
  simp [behindArgument, endsArgument, outermost]

theorem endsArgument_eq_false (plain : c ∉ delimiters) : endsArgument c = false := by
  simp only [delimiters, List.mem_cons, List.not_mem_nil, or_false, not_or] at plain
  simp [endsArgument, isClosing, plain]

theorem behindArgument_plain (plain : ∀ c ∈ s, c ∉ delimiters) :
    ({} : Reader).behindArgument (s ++ rest) = ({} : Reader).behindArgument rest := by
  induction s with
  | nil => rfl
  | cons c s ih =>
    obtain ⟨first, others⟩ := List.forall_mem_cons.mp plain
    have within : (({} : Reader).isOutermost && endsArgument c) = false := endsArgument_eq_false first
    have step : ({} : Reader).next c = {} := nextInCode_eq {} first
    rw [List.cons_append, behindArgument_cons within, step, ih others]

/-- Behind an empty literal the reader goes on in code, unless the next character is a third
quote. -/
theorem behindArgument_paired (quote : isQuote q = true) (plain : ∀ c ∈ s, c ∉ delimiters) :
    ({ mode := .paired q } : Reader).behindArgument (s ++ ',' :: rest) = ',' :: rest := by
  cases s with
  | nil => exact behindArgument_comma rfl
  | cons c s =>
    obtain ⟨first, others⟩ := List.forall_mem_cons.mp plain
    have listed : q ∈ delimiters := by
      obtain rfl | rfl := isQuote_iff.mp quote
      · decide
      · decide
    have other : c ≠ q := fun same => first (same ▸ listed)
    have step : ({ mode := .paired q } : Reader).next c = {} := by
      have inCode := nextInCode_eq { mode := .paired q } first
      simpa [next, other] using inCode
    have within : (({ mode := .paired q } : Reader).isOutermost && endsArgument c) = false :=
      endsArgument_eq_false first
    rw [List.cons_append, behindArgument_cons within, step, behindArgument_plain others,
      behindArgument_comma rfl]

/-- In a literal whose text so far ends in `c`, and further on in `s`: the reader takes the next
quote for an escaped one only if there is a backslash right before it. -/
theorem behindArgument_literal (rest : List Char) {escaped : Bool}
    (last : escaped = true → c = '\\') (inside : q ∉ s) :
    ∃ escaped', ({ mode := .literal q escaped } : Reader).behindArgument (s ++ rest) =
        ({ mode := .literal q escaped' } : Reader).behindArgument rest ∧
      (escaped' = true → ∃ t, c :: s = t ++ ['\\']) := by
  induction s generalizing c escaped with
  | nil => exact ⟨escaped, rfl, fun h => ⟨[], by rw [last h, List.nil_append]⟩⟩
  | cons d s ih =>
    obtain ⟨other, inside⟩ := List.ne_and_not_mem_of_not_mem_cons inside
    obtain ⟨next', step, last'⟩ : ∃ next', ({ mode := .literal q escaped } : Reader).next d =
        { mode := .literal q next' } ∧ (next' = true → d = '\\') := by
      cases escaped with
      | true => exact ⟨false, rfl, by simp⟩
      | false => exact ⟨d == '\\', by simp [next, other.symm], by simp⟩
    obtain ⟨escaped', same, ends⟩ := ih last' inside
    refine ⟨escaped', ?_, fun h => ?_⟩
    · rw [List.cons_append, behindArgument_cons rfl, step, same]
    · obtain ⟨t, cut⟩ := ends h
      exact ⟨c :: t, by rw [cut, List.cons_append]⟩

end Reader

def occurrences (f code : List Char) : List (List Char × List Char) :=
  (List.range (code.length + 1)).filterMap fun n =>
    (f.isPrefixOf? (code.drop n)).map (code.take n, ·)

theorem mem_occurrences {f code a b : List Char} :
    (a, b) ∈ occurrences f code ↔ code = a ++ f ++ b := by
  simp only [occurrences, List.mem_filterMap, List.mem_range, Option.map_eq_some_iff, Prod.mk.injEq,
    List.isPrefixOf?_eq_some_iff_append_eq]
  constructor
  · rintro ⟨n, _, b, cut, rfl, rfl⟩
    rw [List.append_assoc, cut, List.take_append_drop]
  · rintro rfl
    exact ⟨a.length, by simp only [List.length_append]; omega, b, by simp, by simp, rfl⟩

end FixGrader.Source
