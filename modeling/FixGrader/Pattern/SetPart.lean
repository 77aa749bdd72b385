import FixGrader.Pattern.Size
import FixGrader.Text.ByteRange
import FixGrader.Unicode.RangeTable
import Std.Data.HashMap

namespace FixGrader.Pattern

open Text (ByteRange)

structure Edge where
  bytes : ByteRange
  target : Nat
  deriving DecidableEq, Inhabited

namespace Edge

def mix (h : UInt64) (n : Nat) : UInt64 := (h ^^^ n.toUInt64) * 1099511628211

def hashOf (numbers : List Nat) : UInt64 := numbers.foldl mix 14695981039346656037

def numbers (e : Edge) : List Nat := [e.bytes.lo, e.bytes.hi, e.target]

end Edge

/-- Remembered states by slot, and the size of the automaton with them. The next state gets the
number of states so far as its name. -/
structure Memory (κ : Type) where
  slots : Std.HashMap UInt64 (κ × Nat) := {}
  size : Size

namespace Memory

def state {κ : Type} [DecidableEq κ] (slotCount hash : UInt64) (extra : Nat) (key : κ)
    (m : Memory κ) : Nat × Memory κ :=
  let slot := hash % slotCount
  match m.slots[slot]? with
  | some (known, name) => if known = key then (name, m) else fresh slot
  | none => fresh slot
where
  fresh (slot : UInt64) : Nat × Memory κ :=
    let name := m.size.states
    (name, { slots := m.slots.insert slot (key, name)
             size := { states := name + 1, extra := m.size.extra + extra } })

end Memory

/-- A state that may still get edges: those that are settled, and the bytes of the last one, whose
target is not yet known. -/
structure Draft where
  edges : Array Edge := #[]
  last : Option ByteRange := none
  deriving Inhabited

namespace Draft

def close (d : Draft) (target : Nat) : Array Edge :=
  match d.last with
  | none => d.edges
  | some bytes => d.edges.push ⟨bytes, target⟩

def build (edges : Array Edge) (m : Memory (Array Edge)) : Nat × Memory (Array Edge) :=
  m.state 10000 (Edge.hashOf (edges.toList.flatMap Edge.numbers)) (8 * edges.size) edges

def buildPath (target : Nat) : List Draft → Memory (Array Edge) → Nat × Memory (Array Edge)
  | [], m => (target, m)
  | d :: ds, m =>
    let (next, m) := buildPath target ds m
    build (d.close next) m

def addSequence (target : Nat) :
    List Draft → List ByteRange → Memory (Array Edge) → List Draft × Memory (Array Edge)
  | d :: ds, r :: rs, m =>
    if d.last == some r then
      let (ds, m) := addSequence target ds rs m
      (d :: ds, m)
    else
      let (next, m) := buildPath target ds m
      ({ edges := d.close next, last := some r } :: rs.map ({ last := some · }), m)
  | _, rs, m => (rs.map ({ last := some · }), m)

end Draft

namespace Part

def forwardSet (sequences : List (List ByteRange)) : Part where
  build s :=
    let start : List Draft × Memory (Array Edge) :=
      ([{}], { size := { s with states := s.states + 1 } })
    let (path, m) := sequences.foldl
      (fun (path, m) bytes => Draft.addSequence s.states path bytes m) start
    (Draft.buildPath s.states path m).2.size.checked

/-- Reads characters from the last byte on: from a fork a chain of states for each sequence, which
ends in the common last state. -/
def backwardSet (sequences : List (List ByteRange)) : Part where
  build s :=
    let last := s.states + 1
    let start : Memory Edge :=
      { size := { states := s.states + 2, extra := s.extra + 4 * sequences.length } }
    let m := sequences.foldl (fun m bytes =>
      (bytes.foldl (fun (target, m) (r : ByteRange) =>
        m.state 1000 (Edge.hashOf [target, r.lo, r.hi]) 0 ⟨r, target⟩) (last, m)).2) start
    m.size.checked

def ofRanges (backward : Bool) (ranges : List (Nat × Nat)) : Part :=
  if ranges.all (·.2 < 0x80) then
    (states 1).also { build := Size.add 1 (8 * ranges.length) }
  else
    let sequences := ranges.flatMap Text.byteSequences
    if backward then backwardSet sequences else forwardSet sequences

end Part

end FixGrader.Pattern
