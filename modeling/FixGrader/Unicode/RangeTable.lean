namespace FixGrader.Unicode

structure PackedDigit where
  value : Nat
  last : Bool

def PackedDigit.ofChar (c : Char) : PackedDigit :=
  let n := c.toNat
  if 'A'.toNat ≤ n && n ≤ 'Z'.toNat then ⟨n - 'A'.toNat, true⟩
  else if 'a'.toNat ≤ n && n ≤ 'z'.toNat then ⟨n - 'a'.toNat, false⟩
  else if '0'.toNat ≤ n && n ≤ '5'.toNat then ⟨n - '0'.toNat + 26, false⟩
  else if '6'.toNat ≤ n && n ≤ '9'.toNat then ⟨n - '6'.toNat + 26, true⟩
  else if c == '+' then ⟨30, true⟩
  else ⟨31, true⟩

/-- The numbers of a packed text, each with its lowest digit first. -/
def unpack (chars : List Char) (value weight : Nat) : List Nat :=
  match chars with
  | [] => []
  | c :: rest =>
    let d := PackedDigit.ofChar c
    let value := value + d.value * weight
    if d.last then value :: unpack rest 0 1 else unpack rest value (weight * 32)

def unpackLines (lines : List String) : List Nat :=
  unpack (lines.flatMap String.toList) 0 1

def positions (differences : List Nat) (start : Nat) : List Nat :=
  match differences with
  | [] => []
  | d :: rest => (start + d) :: positions rest (start + d)

structure RangeTable where
  bounds : Array Nat
  deriving DecidableEq, Inhabited

/-- The boundaries of what `keep` chooses by membership in two sets with ascending boundaries;
`inA` and `inB` tell whether the code points before the first ones are inside. -/
def combineBounds (keep : Bool → Bool → Bool) (inA inB : Bool) : List Nat → List Nat → List Nat
  | [], [] => []
  | a :: as, [] => emit a (!inA) inB (combineBounds keep (!inA) inB as [])
  | [], b :: bs => emit b inA (!inB) (combineBounds keep inA (!inB) [] bs)
  | a :: as, b :: bs =>
    if a < b then emit a (!inA) inB (combineBounds keep (!inA) inB as (b :: bs))
    else if b < a then emit b inA (!inB) (combineBounds keep inA (!inB) (a :: as) bs)
    else emit a (!inA) (!inB) (combineBounds keep (!inA) (!inB) as bs)
termination_by as bs => as.length + bs.length
where
  emit (bound : Nat) (nowA nowB : Bool) (rest : List Nat) : List Nat :=
    if keep nowA nowB == keep inA inB then rest else bound :: rest

namespace RangeTable

def ofPacked (lines : List String) : RangeTable :=
  ⟨(positions (unpackLines lines) 0).toArray⟩

/-- Number of boundaries at or below `n`, searched for between `lo` and `hi`. -/
def rank (t : RangeTable) (n lo hi : Nat) : Nat :=
  if h : lo < hi then
    let mid := (lo + hi) / 2
    if t.bounds.getD mid 0 ≤ n then rank t n (mid + 1) hi else rank t n lo mid
  else lo
termination_by hi - lo

def holds (t : RangeTable) (n : Nat) : Bool := t.rank n 0 t.bounds.size % 2 == 1

def contains (t : RangeTable) (c : Char) : Bool := t.holds c.toNat

def combine (keep : Bool → Bool → Bool) (s t : RangeTable) : RangeTable :=
  ⟨(combineBounds keep false false s.bounds.toList t.bounds.toList).toArray⟩

def union (s t : RangeTable) : RangeTable := combine (· || ·) s t

def inter (s t : RangeTable) : RangeTable := combine (· && ·) s t

def diff (s t : RangeTable) : RangeTable := combine (fun a b => a && !b) s t

def range (lo hi : Nat) : RangeTable := if lo ≤ hi then ⟨#[lo, hi + 1]⟩ else ⟨#[]⟩

def all : RangeTable := range 0 0x10FFFF

def surrogates : RangeTable := range 0xD800 0xDFFF

/-- Boundaries of the ascending code points `ns`. -/
def pointBounds : List Nat → List Nat
  | [] => []
  | n :: ns =>
    match pointBounds ns with
    | [] => [n, n + 1]
    | m :: ms => if m == n then m :: ms else if m == n + 1 then n :: ms else n :: (n + 1) :: m :: ms

def ofPoints (ns : List Nat) : RangeTable := ⟨(pointBounds ns.mergeSort).toArray⟩

def pairs : List Nat → List (Nat × Nat)
  | lo :: stop :: rest => (lo, stop - 1) :: pairs rest
  | _ => []

/-- The first and the last code point of each run of code points inside. -/
def ranges (t : RangeTable) : List (Nat × Nat) := pairs t.bounds.toList

def isEmpty (t : RangeTable) : Bool := t.bounds.isEmpty

end RangeTable

end FixGrader.Unicode
