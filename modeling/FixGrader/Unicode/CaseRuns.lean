import FixGrader.Unicode.RangeTable

namespace FixGrader.Unicode

def shiftBias : Nat := 0x20000

structure CaseRun where
  first : Nat
  count : Nat
  stride : Nat
  shift : Nat

namespace CaseRun

def ofNumbers (start : Nat) : List Nat → List CaseRun
  | d :: count :: stride :: shift :: rest =>
    ⟨start + d, count, stride, shift⟩ :: ofNumbers (start + d) rest
  | _ => []

def covers (r : CaseRun) (n : Nat) : Bool :=
  r.first ≤ n && n < r.first + r.count * r.stride && (n - r.first) % r.stride == 0

def image? (r : CaseRun) (n : Nat) : Option Nat :=
  if r.covers n then some (n + r.shift - shiftBias) else none

/-- The character that the run maps to `n`, if any. -/
def preimage? (r : CaseRun) (n : Nat) : Option Nat :=
  let m := n + shiftBias - r.shift
  if r.covers m then some m else none

end CaseRun

def packedRuns (lines : List String) : List CaseRun :=
  CaseRun.ofNumbers 0 (unpackLines lines)

/-- The image of `n` under the first run that covers it. -/
def image? (runs : List CaseRun) (n : Nat) : Option Nat :=
  runs.findSome? (·.image? n)

end FixGrader.Unicode
