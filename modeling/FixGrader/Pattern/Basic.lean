import FixGrader.Pattern.CharSet

namespace FixGrader

/-- A place in a text: its number, the character before it and the text after it. -/
structure Place where
  offset : Nat
  before : Option Char
  rest : List Char
  deriving DecidableEq, Inhabited

namespace Place

def start (text : List Char) : Place := ⟨0, none, text⟩

def after (i : Place) : Option Char := i.rest.head?

def next? (i : Place) : Option Place :=
  match i.rest with
  | [] => none
  | c :: cs => some ⟨i.offset + 1, some c, cs⟩

/-- The places from the one described on, in order. -/
def onward (offset : Nat) (before : Option Char) : List Char → List Place
  | [] => [⟨offset, before, []⟩]
  | c :: cs => ⟨offset, before, c :: cs⟩ :: onward (offset + 1) (some c) cs

def allOf (text : List Char) : List Place := onward 0 none text

end Place

/-- Where a place stands relative to words. -/
inductive WordEdge where
  | boundary
  | interior
  | start
  | finish
  | startHalf
  | finishHalf
  deriving DecidableEq

inductive Assertion where
  | textStart
  | textEnd
  | lineStart
  | lineEnd
  | returnLineStart
  | returnLineEnd
  | edge (e : WordEdge) (isWord : CharSet)
  deriving DecidableEq

namespace WordEdge

def holds (e : WordEdge) (before after : Bool) : Bool :=
  match e with
  | boundary => before != after
  | interior => before == after
  | start => !before && after
  | finish => before && !after
  | startHalf => !before
  | finishHalf => !after

end WordEdge

namespace Assertion

/-- Lines end at line feeds; in the `return` forms also at carriage returns, the pair of both being
one end. -/
def holds (a : Assertion) (i : Place) : Bool :=
  match a with
  | textStart => i.before == none
  | textEnd => i.after == none
  | lineStart => i.before == none || i.before == some '\n'
  | lineEnd => i.after == none || i.after == some '\n'
  | returnLineStart =>
    i.before == none || i.before == some '\n' || (i.before == some '\r' && i.after != some '\n')
  | returnLineEnd =>
    i.after == none || i.after == some '\r' || (i.after == some '\n' && i.before != some '\r')
  | edge e isWord => e.holds (i.before.any isWord.mem) (i.after.any isWord.mem)

def wordBoundary : Assertion := edge .boundary .word

end Assertion

/-- `run s` is any number of characters of `s`, `star p` any number of matches of `p` and `upTo p n`
at most `n` of them. -/
inductive Pattern where
  | empty
  | one (s : CharSet)
  | run (s : CharSet)
  | assert (a : Assertion)
  | seq (p q : Pattern)
  | alt (p q : Pattern)
  | star (p : Pattern)
  | upTo (p : Pattern) (n : Nat)
  deriving Inhabited

namespace Pattern

inductive Matches : Pattern → Place → Place → Prop where
  | empty {i} : Matches empty i i
  | one {s i j} {c : Char} {cs : List Char} : i.rest = c :: cs → s.mem c = true →
      j = ⟨i.offset + 1, some c, cs⟩ → Matches (one s) i j
  | runNil {s i} : Matches (run s) i i
  | runCons {s i j k} : Matches (one s) i j → Matches (run s) j k → Matches (run s) i k
  | assert {a i} : a.holds i = true → Matches (assert a) i i
  | seq {p q i j k} : Matches p i j → Matches q j k → Matches (seq p q) i k
  | altLeft {p q i j} : Matches p i j → Matches (alt p q) i j
  | altRight {p q i j} : Matches q i j → Matches (alt p q) i j
  | starNil {p i} : Matches (star p) i i
  | starCons {p i j k} : Matches p i j → Matches (star p) j k → Matches (star p) i k
  | upToNil {p n i} : Matches (upTo p n) i i
  | upToCons {p n i j k} : Matches p i j → Matches (upTo p n) j k → Matches (upTo p (n + 1)) i k

instance : Append Pattern := ⟨seq⟩

instance : OrElse Pattern := ⟨fun p q => alt p (q ())⟩

def char (c : Char) : Pattern := one (.single c)

def chars : List Char → Pattern
  | [] => empty
  | [c] => char c
  | c :: cs => char c ++ chars cs

def lit (s : String) : Pattern := chars s.toList

def foldedChars : List Char → Pattern
  | [] => empty
  | [c] => one (.folded (.single c))
  | c :: cs => one (.folded (.single c)) ++ foldedChars cs

def litFolded (s : String) : Pattern := foldedChars s.toList

def optional (p : Pattern) : Pattern := alt p empty

def many : Pattern → Pattern
  | one s => run s
  | p => star p

def inSequence : List Pattern → Pattern
  | [] => empty
  | [p] => p
  | p :: ps => seq p (inSequence ps)

def anyOf : List Pattern → Pattern
  | [] => one .nothing
  | [p] => p
  | p :: ps => alt p (anyOf ps)

def timesThen (p : Pattern) (n : Nat) (q : Pattern) : Pattern :=
  match n with
  | 0 => q
  | n + 1 => timesThen p n (seq p q)

def repeated (p : Pattern) (least : Nat) (greatest : Option Nat) : Pattern :=
  match greatest with
  | none => timesThen p least (many p)
  | some n => timesThen p least (if n ≤ least then empty else upTo p (n - least))

def wordBoundary : Pattern := assert .wordBoundary

end Pattern

end FixGrader
