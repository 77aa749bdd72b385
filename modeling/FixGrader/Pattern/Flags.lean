import FixGrader.Pattern.NamedSet
import FixGrader.Pattern.Basic

namespace FixGrader.Pattern

inductive Flag where
  | caseless
  | multiline
  | dotAll
  | returns
  | swapGreed
  | unicode
  | extended
  deriving DecidableEq

def Flag.ofChar? : Char → Option Flag
  | 'i' => some .caseless
  | 'm' => some .multiline
  | 's' => some .dotAll
  | 'R' => some .returns
  | 'U' => some .swapGreed
  | 'u' => some .unicode
  | 'x' => some .extended
  | _ => none

structure Flags where
  caseless : Bool := false
  multiline : Bool := false
  dotAll : Bool := false
  returns : Bool := false
  swapGreed : Bool := false
  unicode : Bool := true
  extended : Bool := false

namespace Flags

def set (f : Flags) (on : Bool) : Flag → Flags
  | .caseless => { f with caseless := on }
  | .multiline => { f with multiline := on }
  | .dotAll => { f with dotAll := on }
  | .returns => { f with returns := on }
  | .swapGreed => { f with swapGreed := on }
  | .unicode => { f with unicode := on }
  | .extended => { f with extended := on }

/-- Reads flags up to a colon or a closing parenthesis; the answer tells whether it was a colon.
`seen` are the flags so far, `on` is false after a hyphen, which `dangling` says came last. -/
def read? (f : Flags) (seen : List Flag) (on dangling : Bool) :
    List Char → Option (Flags × Bool × List Char)
  | [] => none
  | ':' :: rest => if dangling then none else some (f, true, rest)
  | ')' :: rest => if dangling || seen.isEmpty then none else some (f, false, rest)
  | '-' :: rest => if on then f.read? seen false true rest else none
  | c :: rest => do
    let flag ← Flag.ofChar? c
    if seen.contains flag then none else (f.set on flag).read? (flag :: seen) on false rest

def foldSet (f : Flags) (s : CharSet) : CharSet :=
  if !f.caseless then s
  else if f.unicode then .folded s
  else .inter (.folded s) .ascii

def negateSet? (f : Flags) (negated : Bool) (s : CharSet) : Option CharSet :=
  if !negated then some s else if f.unicode then some (.compl s) else none

/-- The character `c` outside of a set. -/
def char (f : Flags) (c : Char) : CharSet :=
  if f.unicode || Unicode.isAscii c then f.foldSet (.single c) else .single c

def dot? (f : Flags) : Option CharSet :=
  if !f.unicode then none
  else if f.dotAll then some .all
  else some (.noneOf (if f.returns then "\r\n" else "\n"))

def lineStart (f : Flags) : Assertion :=
  if !f.multiline then .textStart else if f.returns then .returnLineStart else .lineStart

def lineEnd (f : Flags) : Assertion :=
  if !f.multiline then .textEnd else if f.returns then .returnLineEnd else .lineEnd

def edge (f : Flags) (e : WordEdge) : Assertion :=
  .edge e (if f.unicode then .word else .asciiWord)

/-- The sets that one letter names: digits, blanks and word characters; a capital names the other
characters. -/
def letterSet? (f : Flags) (c : Char) : Option CharSet :=
  let set : Option CharSet := match c.toLower with
    | 'd' => some (if f.unicode then .digit else .range '0' '9')
    | 's' => some (if f.unicode then .blank else .asciiBlank)
    | 'w' => some (if f.unicode then .word else .asciiWord)
    | _ => none
  set.bind (f.negateSet? c.isUpper)

end Flags

end FixGrader.Pattern
