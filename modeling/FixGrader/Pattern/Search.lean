import FixGrader.Pattern.Basic

namespace FixGrader

namespace Place

def merge : List Place → List Place → List Place
  | [], js => js
  | is, [] => is
  | i :: is, j :: js =>
    if i.offset < j.offset then i :: merge is (j :: js)
    else if j.offset < i.offset then j :: merge (i :: is) js
    else i :: merge is js

def minus : List Place → List Place → List Place
  | [], _ => []
  | is, [] => is
  | i :: is, j :: js =>
    if i.offset < j.offset then i :: minus is (j :: js)
    else if j.offset < i.offset then minus (i :: is) js
    else minus is js

/-- Places reached from `starts`, none of which lies before `offset`, by runs of characters of
`s`. `live` tells whether a run has reached this place. -/
def sweep (s : CharSet) (live : Bool) (offset : Nat) (before : Option Char) (rest : List Char)
    (starts : List Place) : List Place :=
  let isStart := starts.head?.any (·.offset == offset)
  let starts := if isStart then starts.tail else starts
  let live := live || isStart
  match rest with
  | [] => if live then [⟨offset, before, []⟩] else []
  | c :: cs =>
    if live then ⟨offset, before, c :: cs⟩ :: sweep s (s.mem c) (offset + 1) (some c) cs starts
    else if starts.isEmpty then []
    else sweep s false (offset + 1) (some c) cs starts

def runs (s : CharSet) : List Place → List Place
  | [] => []
  | i :: is => sweep s false i.offset i.before i.rest (i :: is)

/-- Adds to `seen` what `step` reaches from `fresh`, again and again, at most `fuel` times. -/
def closure (step : List Place → List Place) (fuel : Nat) (seen fresh : List Place) : List Place :=
  match fuel with
  | 0 => seen
  | fuel + 1 =>
    match minus (step fresh) seen with
    | [] => seen
    | i :: is => closure step fuel (merge seen (i :: is)) (i :: is)

end Place

namespace Pattern

def advance : Pattern → List Place → List Place
  | empty, is => is
  | one s, is => is.filterMap fun i => if i.after.any s.mem then i.next? else none
  | run s, is => Place.runs s is
  | assert a, is => is.filter a.holds
  | seq p q, is =>
    match p.advance is with
    | [] => []
    | j :: js => q.advance (j :: js)
  | alt p q, is => Place.merge (p.advance is) (q.advance is)
  | star p, is =>
    Place.closure p.advance (is.head?.elim 0 fun i => i.rest.length + 1) is is
  | upTo p n, is => Place.closure p.advance n is is

def ends (p : Pattern) (text : List Char) : List Place := p.advance (Place.allOf text)

def occursIn (p : Pattern) (text : String) : Bool := !(p.ends text.toList).isEmpty

end Pattern

end FixGrader
