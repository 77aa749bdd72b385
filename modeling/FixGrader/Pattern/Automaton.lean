import FixGrader.Pattern.Expression
import FixGrader.Pattern.SetPart
import FixGrader.Pattern.TextTree

namespace FixGrader.Pattern.Expression

def bytes? : Expression → Option (List Nat)
  | text s => some (Text.Utf8.encode s)
  | _ => none

mutual

def part (backward : Bool) : Expression → Part
  | empty | place _ => .states 1
  | text s => .states (Text.Utf8.encode s).length
  | oneOf t => .ofRanges backward t.ranges
  | group _ e =>
    let inner := part backward e
    if backward then inner
    else .allOf [.states 1, inner, inner.connection, .states 1]
  | repeated e least greatest _ =>
    let p := part backward e
    match greatest with
    | none => p.atLeast (e.minLength?.any (0 < ·)) least
    | some n =>
      if least == 0 && n == 1 then p.optional
      else if n == least then p.copies n
      else p.between least (n - least)
  | sequence es =>
    let ps := parts backward es
    .inOrder (if backward then ps.reverse else ps)
  | choice es =>
    match es.mapM bytes? with
    | some (s :: t :: texts) =>
      let texts := s :: t :: texts
      .ofTexts (if backward then texts.map List.reverse else texts)
    | _ => .oneOf (parts backward es)

def parts (backward : Bool) : List Expression → List Part
  | [] => []
  | e :: es => part backward e :: parts backward es

end

mutual

def startsWith (a : Assertion) : Expression → Bool
  | empty | text _ | oneOf _ => false
  | place b => a == b
  | group _ e => startsWith a e
  | repeated e least _ _ => 0 < least && startsWith a e
  | sequence es => someStartsWith a es
  | choice es => allStartWith a es

def someStartsWith (a : Assertion) : List Expression → Bool
  | [] => false
  | e :: es => startsWith a e || (maxLength? e == some 0 && someStartsWith a es)

def allStartWith (a : Assertion) : List Expression → Bool
  | [] => true
  | e :: es => startsWith a e && allStartWith a es

end

mutual

/-- The expression for reading in the other direction, as far as assertions are concerned. -/
def reversed : Expression → Expression
  | group n e => group n (reversed e)
  | repeated e least greatest greedy => repeated (reversed e) least greatest greedy
  | sequence es => sequence (reversedAll es).reverse
  | choice es => choice (reversedAll es)
  | e => e

def reversedAll : List Expression → List Expression
  | [] => []
  | e :: es => reversed e :: reversedAll es

end

/-- What lets a search begin anywhere, unless the expression can match at one end only. -/
def entry (anchored : Bool) : Part :=
  if anchored then .states 1
  else .allOf [.fork 2, .states 1, { build := Size.add 1 8 }]

def forward (e : Expression) : Part :=
  .allOf [entry (startsWith .textStart e), part false (group 0 e), .states 1]

def backward (e : Expression) : Part :=
  let p := part true e
  .allOf [entry (startsWith .textEnd e.reversed), p, p.connection, .states 1]

/-- Three thousand texts and more are looked for in another way, without an automaton. -/
def isLongWordList : Expression → Bool
  | choice es => 3000 ≤ es.length && es.all fun e => e.bytes?.isSome
  | _ => false

def fits (e : Expression) : Bool :=
  e.isLongWordList || ((e.forward.build {}).isSome && (e.backward.build {}).isSome)

end FixGrader.Pattern.Expression
