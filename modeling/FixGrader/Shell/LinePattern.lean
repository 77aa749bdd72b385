import FixGrader.Pattern.Search

namespace FixGrader.Shell.LinePattern

inductive Sign where
  | set (s : CharSet)
  | assert (a : Assertion)
  | opening
  | closing
  | bar
  | count (least : Nat) (greatest : Option Nat)

def classSet (name : String) : Option CharSet :=
  let digits := CharSet.range '0' '9'
  match name with
  | "alpha" => some .letter
  | "digit" => some digits
  | "alnum" => some (.union digits .letter)
  | "upper" => some (.range 'A' 'Z')
  | "lower" => some (.range 'a' 'z')
  | "space" => some (.oneOf " \t\n\x0b\x0c\r")
  | "blank" => some (.oneOf " \t")
  | "punct" => some (.diff (.range '!' '~') (.union digits .letter))
  | "cntrl" => some (.union (.range '\x00' '\x1f') (.single '\x7f'))
  | "xdigit" => some (.union digits (.union (.range 'A' 'F') (.range 'a' 'f')))
  | "print" => some (.range ' ' '~')
  | "graph" => some (.range '!' '~')
  | _ => none

def wordSet : CharSet := .union (.single '_') (.union (.range '0' '9') .letter)

def readSet (first : Bool) : (fuel : Nat) → List Char → Option (CharSet × List Char)
  | 0, _ => none
  | _ + 1, [] => none
  | fuel + 1, ']' :: rest =>
    if first then (readSet false fuel rest).map fun (s, r) => (.union (.single ']') s, r)
    else some (.nothing, rest)
  | fuel + 1, '[' :: ':' :: rest => do
    let name := rest.takeWhile (· != ':')
    let s ← classSet (String.ofList name)
    let (more, rest) ← readSet false fuel (rest.drop (name.length + 2))
    return (.union s more, rest)
  | fuel + 1, a :: '-' :: b :: rest => do
    if b == ']' then
      let (more, rest) ← readSet false fuel ('-' :: b :: rest)
      return (.union (.single a) more, rest)
    else
      let (more, rest) ← readSet false fuel rest
      return (.union (.range a b) more, rest)
  | fuel + 1, c :: rest => do
    let (more, rest) ← readSet false fuel rest
    return (.union (.single c) more, rest)

def readBrackets (s : List Char) : Option (CharSet × List Char) :=
  match s with
  | '^' :: rest => (readSet true (rest.length + 1) rest).map fun (s, r) => (.compl s, r)
  | rest => readSet true (rest.length + 1) rest

def readCount (closing : List Char) (s : List Char) : Option (Sign × List Char) := do
  let number (cs : List Char) : Nat := cs.foldl (fun n c => 10 * n + (c.toNat - '0'.toNat)) 0
  let least := s.takeWhile Char.isDigit
  let rest := s.drop least.length
  let finish (sign : Sign) (rest : List Char) : Option (Sign × List Char) :=
    if closing.isPrefixOf rest then some (sign, rest.drop closing.length) else none
  match rest with
  | ',' :: rest =>
    let greatest := rest.takeWhile Char.isDigit
    let top := if greatest.isEmpty then none else some (number greatest)
    finish (.count (number least) top) (rest.drop greatest.length)
  | rest => if least.isEmpty then none else finish (.count (number least) (some (number least))) rest

def escape (c : Char) : Sign :=
  match c with
  | 'w' => .set wordSet
  | 'W' => .set (.compl wordSet)
  | 's' => .set (.oneOf " \t\n\x0b\x0c\r")
  | 'S' => .set (.noneOf " \t\n\x0b\x0c\r")
  | 'b' => .assert (.edge .boundary wordSet)
  | 'B' => .assert (.edge .interior wordSet)
  | '<' => .assert (.edge .start wordSet)
  | '>' => .assert (.edge .finish wordSet)
  | 'n' => .set (.single '\n')
  | 't' => .set (.single '\t')
  | c => .set (.single c)

def atStart : List Sign → Bool
  | [] | .opening :: _ | .bar :: _ => true
  | [.assert .lineStart] => true
  | _ => false

/-- Reads signs; `before` holds those read so far, the last one first. Every step takes a
character. -/
def signs (extended : Bool) : (fuel : Nat) → (before : List Sign) → List Char → Option (List Sign)
  | 0, _, _ => none
  | _ + 1, before, [] => some before.reverse
  | fuel + 1, before, c :: rest =>
    let go (sign : Sign) (rest : List Char) : Option (List Sign) :=
      signs extended fuel (sign :: before) rest
    let special (c : Char) (rest : List Char) : Option (List Sign) :=
      match c with
      | '(' => go .opening rest
      | ')' => go .closing rest
      | '|' => go .bar rest
      | '+' => go (.count 1 none) rest
      | '?' => go (.count 0 (some 1)) rest
      | _ =>
        match readCount (if extended then ['\x7d'] else ['\\', '\x7d']) rest with
        | some (sign, rest) => go sign rest
        | none => none
    let isSpecial (c : Char) : Bool := "()|+?\x7b".contains c
    match c, rest with
    | '\\', d :: rest =>
      if !extended && isSpecial d then special d rest else go (escape d) rest
    | '\\', [] => none
    | '.', _ => go (.set .all) rest
    | '[', _ =>
      match readBrackets rest with
      | some (s, rest) => go (.set s) rest
      | none => none
    | '*', _ =>
      if atStart before && !extended then go (.set (.single '*')) rest else go (.count 0 none) rest
    | '^', _ =>
      if extended || atStart before then go (.assert .lineStart) rest
      else go (.set (.single '^')) rest
    | '$', _ =>
      let ends := rest.isEmpty || ['\\', ')'].isPrefixOf rest || ['\\', '|'].isPrefixOf rest
      if extended || ends then go (.assert .lineEnd) rest else go (.set (.single '$')) rest
    | c, _ => if extended && isSpecial c then special c rest else go (.set (.single c)) rest

mutual

def readChoice (fold : CharSet → CharSet) : (fuel : Nat) → List Sign →
    Option (FixGrader.Pattern × List Sign)
  | 0, _ => none
  | fuel + 1, s => do
    let (first, rest) ← readSequence fold fuel .empty s
    match rest with
    | .bar :: rest =>
      let (second, rest) ← readChoice fold fuel rest
      return (.alt first second, rest)
    | rest => return (first, rest)

def readSequence (fold : CharSet → CharSet) : (fuel : Nat) → FixGrader.Pattern → List Sign →
    Option (FixGrader.Pattern × List Sign)
  | 0, _, _ => none
  | fuel + 1, before, s =>
    match s with
    | [] | .bar :: _ | .closing :: _ => some (before, s)
    | sign :: rest => do
      let (atom, rest) ← match sign with
        | .set s => some (.one (fold s), rest)
        | .assert a => some (.assert a, rest)
        | .opening => do
          let (inner, rest) ← readChoice fold fuel rest
          match rest with
          | .closing :: rest => some (inner, rest)
          | _ => none
        | _ => none
      let (atom, rest) := readCounts fuel atom rest
      readSequence fold fuel (before ++ atom) rest

def readCounts : (fuel : Nat) → FixGrader.Pattern → List Sign → FixGrader.Pattern × List Sign
  | 0, atom, s => (atom, s)
  | fuel + 1, atom, .count least greatest :: rest =>
    readCounts fuel (atom.repeated least greatest) rest
  | _, atom, s => (atom, s)

end

def read (extended folded : Bool) (text : String) : Option FixGrader.Pattern := do
  let chars := text.toList
  let s ← signs extended (chars.length + 1) [] chars
  let fold (s : CharSet) : CharSet := if folded then .folded s else s
  match ← readChoice fold (3 * s.length + 3) s with
  | (p, []) => return p
  | _ => none

/-- The longest match that begins first in `text`: what is before it, it, and what follows it. The
text begins behind the character `before`. -/
def find (p : FixGrader.Pattern) (before : Option Char) (text : List Char) :
    Option (List Char × List Char × List Char) :=
  (Place.onward 0 before text).findSome? fun i =>
    (p.advance [i]).getLast?.map fun j =>
      (text.take i.offset, (text.drop i.offset).take (j.offset - i.offset), j.rest)

end FixGrader.Shell.LinePattern
