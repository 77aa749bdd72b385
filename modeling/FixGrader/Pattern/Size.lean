namespace FixGrader.Pattern

/-- Number of states, and bytes for what their number does not tell. -/
structure Size where
  states : Nat := 0
  extra : Nat := 0
  deriving DecidableEq, Inhabited

namespace Size

def limit : Nat := 10485760

def bytes (s : Size) : Nat := 32 * s.states + s.extra

def checked (s : Size) : Option Size := if s.bytes ≤ limit then some s else none

def plus (s t : Size) : Size := { states := s.states + t.states, extra := s.extra + t.extra }

/-- Adds `n` states that each take `extra` bytes more than a state does. -/
def add (n extra : Nat) (s : Size) : Option Size :=
  checked { states := s.states + n, extra := s.extra + n * extra }

def addBytes (n : Nat) (s : Size) : Option Size := checked { s with extra := s.extra + n }

end Size

structure Part where
  endsInFork : Bool := false
  build : Size → Option Size

namespace Part

def states (n : Nat) : Part := { build := Size.add n 0 }

def fork (n : Nat) : Part := { build := Size.add 1 (4 * n) }

def links (n : Nat) : Part := { build := Size.addBytes (4 * n) }

def connection (p : Part) : Part := if p.endsInFork then links 1 else { build := some }

/-- `p` and `q`, one built after the other; the end is that of `q`. -/
def also (p q : Part) : Part :=
  { endsInFork := q.endsInFork, build := fun s => (p.build s).bind q.build }

def before (p q : Part) : Part := (p.also p.connection).also q

def allOf (ps : List Part) : Part := ps.foldl also { build := some }

def inOrder : List Part → Part
  | [] => states 1
  | p :: ps => ps.foldl before p

def iterate (build : Size → Option Size) : Nat → Size → Option Size
  | 0, s => some s
  | n + 1, s =>
    match build s with
    | none => none
    | some s => iterate build n s

def copies (p : Part) : Nat → Part
  | 0 => states 1
  | n + 1 => p.also { p with build := iterate (p.connection.also p).build n }

/-- At least `n` copies of `p`, which never is passed without any text if `consumes`. -/
def atLeast (p : Part) (consumes : Bool) : Nat → Part
  | 0 =>
    if consumes then { ((fork 1).also p).also p.connection with endsInFork := true }
    else allOf [p, p.connection, fork 2, fork 2, states 1]
  | n + 1 => { allOf [p.copies (n + 1), p.connection, fork 1] with endsInFork := true }

def optional (p : Part) : Part := allOf [fork 2, p, p.connection, states 1]

def between (p : Part) (least more : Nat) : Part :=
  let first := p.copies least
  let step := allOf [fork 2, p, p.connection]
  allOf [first, states 1, if least == 0 then { build := some } else p.connection,
    { build := iterate step.build more }]

def oneOf : List Part → Part
  | [] => states 2
  | [p] => p
  | p :: q :: ps =>
    let ends := (p :: q :: ps).map connection
    allOf ([p, q, fork 2, states 1] ++ ps.map (fun r => r.also (links 1)) ++ ends ++
      [{ build := some }])

end Part

end FixGrader.Pattern
