import FixGrader.Pattern.Basic

namespace FixGrader.Pattern

inductive Expression where
  | empty
  | text (s : List Char)
  | oneOf (t : Unicode.RangeTable)
  | place (a : Assertion)
  | group (number : Nat) (e : Expression)
  | repeated (e : Expression) (least : Nat) (greatest : Option Nat) (greedy : Bool)
  | sequence (es : List Expression)
  | choice (es : List Expression)
  deriving Inhabited

namespace Expression

mutual

def same : Expression → Expression → Bool
  | empty, empty => true
  | text s, text t => s == t
  | oneOf s, oneOf t => s == t
  | place a, place b => a == b
  | group m d, group n e => m == n && same d e
  | repeated d l g b, repeated e l' g' b' => l == l' && g == g' && b == b' && same d e
  | sequence ds, sequence es => sameAll ds es
  | choice ds, choice es => sameAll ds es
  | _, _ => false

def sameAll : List Expression → List Expression → Bool
  | [], [] => true
  | d :: ds, e :: es => same d e && sameAll ds es
  | _, _ => false

end

def byteCount (n : Nat) : Nat := (Char.ofNat n).utf8Size

mutual

/-- Least number of bytes of a match, unless there is no match. -/
def minLength? : Expression → Option Nat
  | empty | place _ => some 0
  | text s => some ((s.map Char.utf8Size).foldl (· + ·) 0)
  | oneOf t => t.ranges.head?.map fun r => byteCount r.1
  | group _ e => minLength? e
  | repeated e least _ _ => (minLength? e).map (least * ·)
  | sequence es => minLengths? (· + ·) es
  | choice es => minLengths? min es

def minLengths? (op : Nat → Nat → Nat) : List Expression → Option Nat
  | [] => some 0
  | [e] => minLength? e
  | e :: es => do return op (← minLength? e) (← minLengths? op es)

end

mutual

/-- Greatest number of bytes of a match, unless there is no match or no bound. -/
def maxLength? : Expression → Option Nat
  | empty | place _ => some 0
  | text s => some ((s.map Char.utf8Size).foldl (· + ·) 0)
  | oneOf t => t.ranges.getLast?.map fun r => byteCount r.2
  | group _ e => maxLength? e
  | repeated e _ greatest _ => do return (← greatest) * (← maxLength? e)
  | sequence es => maxLengths? (· + ·) es
  | choice es => maxLengths? max es

def maxLengths? (op : Nat → Nat → Nat) : List Expression → Option Nat
  | [] => some 0
  | [e] => maxLength? e
  | e :: es => do return op (← maxLength? e) (← maxLengths? op es)

end

def ofTable (t : Unicode.RangeTable) : Expression :=
  match t.bounds.toList with
  | [lo, stop] => if stop == lo + 1 then text [Char.ofNat lo] else oneOf t
  | _ => oneOf t

def ofSet (s : CharSet) : Expression := ofTable (s.codePoints.diff .surrogates)

def ofRepeated (e : Expression) (least : Nat) (greatest : Option Nat) (greedy : Bool) :
    Expression :=
  let once := e.maxLength? == some 0
  let least := if once then min least 1 else least
  let greatest := if once then some (min (greatest.getD 1) 1) else greatest
  if greatest == some 0 then empty
  else if least == 1 && greatest == some 1 then e
  else repeated e least greatest greedy

def joinTexts : List Expression → List Expression
  | [] => []
  | e :: es =>
    match e, joinTexts es with
    | text s, text t :: rest => text (s ++ t) :: rest
    | e, rest => e :: rest

def ofSequence (es : List Expression) : Expression :=
  let flat := es.flatMap fun
    | empty => []
    | sequence parts => parts
    | e => [e]
  match joinTexts flat with
  | [] => empty
  | [e] => e
  | parts => sequence parts

def commonStart : List Expression → List Expression → List Expression
  | d :: ds, e :: es => if same d e then d :: commonStart ds es else []
  | _, _ => []

/-- The beginning that all of `es` share, if they are sequences. -/
def sharedStart : List Expression → List Expression
  | [sequence parts] => parts
  | sequence parts :: es => commonStart parts (sharedStart es)
  | _ => []

def singleChar? : Expression → Option Nat
  | text [c] => some c.toNat
  | _ => none

def set? : Expression → Option Unicode.RangeTable
  | oneOf t => some t
  | _ => none

/-- One of several. Single characters and sets are one set, and a beginning that all share comes
first. `fuel` bounds how often beginnings are taken out. -/
def ofChoice (fuel : Nat) (es : List Expression) : Expression :=
  let flat := es.flatMap fun
    | choice parts => parts
    | e => [e]
  match flat with
  | [] => oneOf ⟨#[]⟩
  | [e] => e
  | _ =>
    if let some points := flat.mapM singleChar? then ofTable (.ofPoints points)
    else if let some tables := flat.mapM set? then oneOf (tables.foldl .union ⟨#[]⟩)
    else
      let start := sharedStart flat
      match fuel with
      | 0 => choice flat
      | fuel + 1 =>
        if start.isEmpty then choice flat
        else
          let rests := flat.map fun
            | sequence parts => ofSequence (parts.drop start.length)
            | e => e
          ofSequence (start ++ [ofChoice fuel rests])

mutual

def toPattern : Expression → Pattern
  | empty => .empty
  | text s => .chars s
  | oneOf t => .one (.table t)
  | place a => .assert a
  | group _ e => toPattern e
  | repeated e least greatest _ => (toPattern e).repeated least greatest
  | sequence es => .inSequence (toPatterns es)
  | choice es => .anyOf (toPatterns es)

def toPatterns : List Expression → List Pattern
  | [] => []
  | e :: es => toPattern e :: toPatterns es

end

end Expression

end FixGrader.Pattern
