import FixGrader.Shell.Word

namespace FixGrader.Shell.Arithmetic

inductive Fault where
  | noOperand
  | noEnd
  | noClosing
  | noColon
  | divisionByZero
  | number (text : String)
  deriving DecidableEq, Repr

def Fault.message (source : String) : Fault → String
  | noOperand => about "expecting primary"
  | noEnd => about "expecting EOF"
  | noClosing => about "expecting ')'"
  | noColon => about "expecting ':'"
  | divisionByZero => about "division by zero"
  | number text => s!"Illegal number: {text}"
where
  about (what : String) : String := s!"arithmetic expression: {what}: \"{source}\""

inductive Operator where
  | or | and | bitOr | bitXor | bitAnd | eq | ne | le | ge | lt | gt | left | right
  | add | sub | mul | div | mod
  deriving DecidableEq, Repr

def spellings : List (String × Operator) :=
  [("||", .or), ("&&", .and), ("==", .eq), ("!=", .ne), ("<<", .left), (">>", .right), ("<=", .le),
   (">=", .ge), ("|", .bitOr), ("^", .bitXor), ("&", .bitAnd), ("<", .lt), (">", .gt), ("+", .add),
   ("-", .sub), ("*", .mul), ("/", .div), ("%", .mod)]

def Operator.rank : Operator → Nat
  | or => 1
  | and => 2
  | bitOr => 3
  | bitXor => 4
  | bitAnd => 5
  | eq | ne => 6
  | le | ge | lt | gt => 7
  | left | right => 8
  | add | sub => 9
  | mul | div | mod => 10

def truth (b : Bool) : Int := if b then 1 else 0

def wrap (n : Int) : Int := n.bmod UInt64.size

def bits (f : UInt64 → UInt64 → UInt64) (a b : Int) : Int :=
  wrap (f (UInt64.ofInt a) (UInt64.ofInt b)).toNat

def Operator.apply (a b : Int) : Operator → Except Fault Int
  | or => .ok (truth (a != 0 || b != 0))
  | and => .ok (truth (a != 0 && b != 0))
  | bitOr => .ok (bits (· ||| ·) a b)
  | bitXor => .ok (bits (· ^^^ ·) a b)
  | bitAnd => .ok (bits (· &&& ·) a b)
  | eq => .ok (truth (a == b))
  | ne => .ok (truth (a != b))
  | le => .ok (truth (a ≤ b))
  | ge => .ok (truth (a ≥ b))
  | lt => .ok (truth (a < b))
  | gt => .ok (truth (a > b))
  | left => .ok (wrap (a * Nat.pow 2 (b % 64).toNat))
  | right => .ok (a / Nat.pow 2 (b % 64).toNat)
  | add => .ok (wrap (a + b))
  | sub => .ok (wrap (a - b))
  | mul => .ok (wrap (a * b))
  | div => if b = 0 then .error .divisionByZero else .ok (wrap (a.tdiv b))
  | mod => if b = 0 then .error .divisionByZero else .ok (a.tmod b)

def skip (s : List Char) : List Char := s.dropWhile fun c => c == ' ' || c == '\t' || c == '\n'

/-- Operators that give the parameter in front of them a value when an equals sign follows. -/
def Operator.assigns : Operator → Bool
  | or | and | eq | ne | le | ge | lt | gt => false
  | _ => true

def readOperator? (s : List Char) : Option (Operator × List Char) := do
  let (spelling, op) ← spellings.find? fun p => p.1.toList.isPrefixOf s
  let rest := s.drop spelling.length
  if op.assigns && rest.head? == some '=' then none else some (op, rest)

/-- Reads what gives a parameter a value: an equals sign, alone or after an operator. -/
def readAssigning? (s : List Char) : Option (Option Operator × List Char) :=
  match s with
  | '=' :: '=' :: _ => none
  | '=' :: rest => some (none, rest)
  | s => do
    let (spelling, op) ← spellings.find? fun p => p.1.toList.isPrefixOf s
    match op.assigns, s.drop spelling.length with
    | true, '=' :: rest => some (some op, rest)
    | _, _ => none

def digit (c : Char) : Nat :=
  if c.isDigit then c.toNat - '0'.toNat else c.toLower.toNat - 'a'.toNat + 10

def ofDigits (base : Nat) (ds : List Char) : Int :=
  Int.ofNat (ds.foldl (fun n c => n * base + digit c) 0)

def isHexDigit (c : Char) : Bool := c.isDigit || ('a' ≤ c.toLower && c.toLower ≤ 'f')

def readNumber? (s : List Char) : Option (Int × List Char) :=
  let take (base : Nat) (p : Char → Bool) (s : List Char) :=
    some (ofDigits base (s.takeWhile p), s.dropWhile p)
  match s with
  | '0' :: 'x' :: rest => take 16 isHexDigit rest
  | '0' :: rest => take 8 (fun c => '0' ≤ c && c ≤ '7') rest
  | c :: _ => if c.isDigit then take 10 Char.isDigit s else none
  | [] => none

def number? (s : List Char) : Option Int :=
  let all (s : List Char) :=
    match readNumber? s with
    | some (n, rest) => if (skip rest).isEmpty then some n else none
    | none => none
  match skip s with
  | '-' :: rest => (all rest).map (- ·)
  | '+' :: rest => all rest
  | rest => all rest

/-- A sum as far as it was read, and the values that were given to parameters, the latest first. -/
structure Progress where
  rest : List Char
  given : List (String × Int) := []

abbrev Reading := StateT Progress (Except Fault)

namespace Reading

def accept (c : Char) : Reading Bool := modifyGet fun p =>
  match skip p.rest with
  | d :: rest => if d == c then (true, { p with rest }) else (false, p)
  | [] => (false, p)

def valueOf (value : String → Except Fault Int) (name : String) : Reading Int := do
  match (← get).given.lookup name with
  | some n => return n
  | none => value name

def target? : Reading (Option (String × Option Operator)) := do
  let p ← get
  let s := skip p.rest
  if s.head?.any Word.isNameStart then
    match readAssigning? (skip (s.dropWhile Word.isNameChar)) with
    | some (op, rest) =>
      set { p with rest }
      return some (String.ofList (s.takeWhile Word.isNameChar), op)
    | none => return none
  else return none

end Reading

open Reading

mutual

def readSum (value : String → Except Fault Int) : (fuel : Nat) → (idle : Bool) → Reading Int
  | 0, _ => throw .noOperand
  | fuel + 1, idle => do
    match ← target? with
    | none => readChoice value fuel idle
    | some (name, op) =>
      let b ← readSum value fuel idle
      if idle then return b
      let n ← match op with
        | none => pure b
        | some op => op.apply (← valueOf value name) b
      modify fun p => { p with given := (name, n) :: p.given }
      return n

def readChoice (value : String → Except Fault Int) : (fuel : Nat) → (idle : Bool) → Reading Int
  | 0, _ => throw .noOperand
  | fuel + 1, idle => do
    let a ← readTerm value fuel idle 1
    if !(← accept '?') then return a
    let b ← readSum value fuel (idle || a == 0)
    if !(← accept ':') then throw .noColon
    let c ← readChoice value fuel (idle || a != 0)
    return if a != 0 then b else c

def readTerm (value : String → Except Fault Int) :
    (fuel : Nat) → (idle : Bool) → (rank : Nat) → Reading Int
  | 0, _, _ => throw .noOperand
  | fuel + 1, idle, rank => do
    let a ← readOperand value fuel idle
    readRest value fuel idle rank a

def readRest (value : String → Except Fault Int) :
    (fuel : Nat) → (idle : Bool) → (rank : Nat) → Int → Reading Int
  | 0, _, _, _ => throw .noOperand
  | fuel + 1, idle, rank, a => do
    let p ← get
    match readOperator? (skip p.rest) with
    | none => return a
    | some (op, rest) =>
      if op.rank < rank then return a
      set { p with rest }
      let settled := (op == .or && a != 0) || (op == .and && a == 0)
      let b ← readTerm value fuel (idle || settled) (op.rank + 1)
      readRest value fuel idle rank (← if idle then pure b else op.apply a b)

def readOperand (value : String → Except Fault Int) : (fuel : Nat) → (idle : Bool) → Reading Int
  | 0, _ => throw .noOperand
  | fuel + 1, idle => do
    let p ← get
    match skip p.rest with
    | '(' :: rest =>
      set { p with rest }
      let a ← readSum value fuel idle
      if ← accept ')' then return a else throw .noClosing
    | '-' :: rest =>
      set { p with rest }
      return wrap (-(← readOperand value fuel idle))
    | '+' :: rest =>
      set { p with rest }
      readOperand value fuel idle
    | '!' :: rest =>
      set { p with rest }
      return truth ((← readOperand value fuel idle) == 0)
    | '~' :: rest =>
      set { p with rest }
      return -(← readOperand value fuel idle) - 1
    | c :: rest =>
      if Word.isNameStart c then
        set { p with rest := (c :: rest).dropWhile Word.isNameChar }
        if idle then return 0
        valueOf value (String.ofList ((c :: rest).takeWhile Word.isNameChar))
      else
        match readNumber? (c :: rest) with
        | some (n, rest) =>
          set { p with rest }
          return n
        | none => throw .noOperand
    | [] => throw .noOperand

end

/-- The value of a sum, given the values of its parameters, and the values that it gives to some,
the earliest first. An empty sum is zero. -/
def eval (value : String → Except Fault Int) (s : List Char) :
    Except Fault (Int × List (String × Int)) := do
  if (skip s).isEmpty then return (0, [])
  let (n, p) ← (readSum value (5 * s.length + 5) false).run { rest := s }
  if (skip p.rest).isEmpty then return (n, p.given.reverse) else .error .noEnd

end FixGrader.Shell.Arithmetic
