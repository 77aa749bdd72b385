import FixGrader.Text.Utf8

namespace FixGrader.Text

structure ByteRange where
  lo : Nat
  hi : Nat
  deriving DecidableEq, Inhabited

def cutBefore (n : Nat) (r : Nat × Nat) : List (Nat × Nat) :=
  if r.1 < n && n ≤ r.2 then [(r.1, n - 1), (n, r.2)] else [r]

def cutBlocks (n : Nat) (r : Nat × Nat) : List (Nat × Nat) :=
  let (lo, hi) := r
  if lo / n == hi / n then [r]
  else
    let first := (lo + n - 1) / n * n
    let stop := (hi + 1) / n * n
    let pieces := [(lo, first), (first, stop), (stop, hi + 1)]
    (pieces.filter fun p => p.1 < p.2).map fun p => (p.1, p.2 - 1)

/-- The sequences for the characters from `r.1` to `r.2`, between which no surrogates lie. All
characters of a piece have equally many bytes, and where two pieces share a byte but the last they
share all bytes before it. -/
def byteSequences (r : Nat × Nat) : List (List ByteRange) :=
  let sized := [r].flatMap (cutBefore 0x80) |>.flatMap (cutBefore 0x800)
    |>.flatMap (cutBefore 0x10000)
  let pieces := sized.flatMap fun p =>
    if p.2 < 0x80 then [p]
    else [p].flatMap (cutBlocks 0x40) |>.flatMap (cutBlocks 0x1000) |>.flatMap (cutBlocks 0x40000)
  pieces.map fun p =>
    List.zipWith ByteRange.mk (Utf8.encodeChar (Char.ofNat p.1)) (Utf8.encodeChar (Char.ofNat p.2))

end FixGrader.Text
