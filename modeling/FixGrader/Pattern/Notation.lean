import FixGrader.Pattern.Automaton
import FixGrader.Pattern.Flags
import FixGrader.Unicode.Letter

namespace FixGrader.Pattern

/-- Greatest nesting of groups, repetitions, sets and lists of more than one item. -/
def maxDepth : Nat := 250

/-- A part of a pattern as it was written. -/
structure Item where
  expression : Expression
  depth : Nat := 0
  repeatable : Bool := true

namespace Item

def ofSet (s : CharSet) (depth : Nat) : Item := { expression := .ofSet s, depth }

def ofChar (f : Flags) (c : Char) : Item :=
  if f.caseless then ofSet (f.char c) 0 else { expression := .text [c] }

def ofAssertion (a : Assertion) : Item := { expression := .place a }

def inOrder (xs : List Item) : Item :=
  match xs with
  | [] => { expression := .empty }
  | [x] => x
  | _ =>
    { expression := .ofSequence (xs.map Item.expression)
      depth := (xs.map Item.depth).foldl max 0 + 1 }

def anyOf (xs : List Item) : Item :=
  match xs with
  | [x] => x
  | _ =>
    { expression := .ofChoice maxDepth (xs.map Item.expression)
      depth := (xs.map Item.depth).foldl max 0 + 1 }

def grouped (x : Item) (number : Option Nat) : Item :=
  { expression := number.elim x.expression fun n => .group n x.expression, depth := x.depth + 1 }

def repeated? (x : Item) (least : Nat) (greatest : Option Nat) (greedy : Bool) : Option Item :=
  if x.repeatable then
    some { expression := .ofRepeated x.expression least greatest greedy, depth := x.depth + 1 }
  else none

end Item

structure Cursor where
  rest : List Char
  flags : Flags := {}
  names : List (List Char) := []
  groups : Nat := 0

abbrev Reading := StateT Cursor Option

def dropSpace (inComment : Bool) : List Char → List Char
  | [] => []
  | c :: cs =>
    if inComment then dropSpace (c != '\n') cs
    else if c == '#' then dropSpace true cs
    else if Text.isBlank c then dropSpace false cs
    else c :: cs

/-- The characters up to the next closing brace, less those that the extended notation skips, and
what follows the brace. -/
def upToBrace (extended inComment : Bool) : List Char → Option (List Char × List Char)
  | [] => none
  | c :: cs =>
    if inComment then upToBrace extended (c != '\n') cs
    else if c == '}' then some ([], cs)
    else if extended && c == '#' then upToBrace extended true cs
    else if extended && Text.isBlank c then upToBrace extended false cs
    else (upToBrace extended false cs).map fun (inside, after) => (c :: inside, after)

namespace Reading

def flags : Reading Flags := do return (← get).flags

def setRest (rest : List Char) : Reading Unit := modify ({ · with rest })

def setFlags (flags : Flags) : Reading Unit := modify ({ · with flags })

def space : Reading Unit := do
  if (← flags).extended then setRest (dropSpace false (← get).rest)

def peek? : Reading (Option Char) := do return (← get).rest.head?

def next : Reading Char := do
  match (← get).rest with
  | [] => failure
  | c :: cs => setRest cs; return c

def accept (s : String) : Reading Bool := do
  let rest := (← get).rest
  if s.toList.isPrefixOf rest then
    setRest (rest.drop s.length)
    return true
  else return false

def acceptAny : List String → Reading Bool
  | [] => return false
  | s :: ss => do
    if ← accept s then return true else acceptAny ss

def braced : Reading (List Char) := do
  let (inside, after) ← upToBrace (← flags).extended false (← get).rest
  setRest after
  return inside

end Reading

open Reading

def hexValue? : List Char → Nat → Option Nat
  | [], n => some n
  | c :: cs, n =>
    if c.isDigit then hexValue? cs (16 * n + (c.toNat - '0'.toNat))
    else if 'a' ≤ c && c ≤ 'f' then hexValue? cs (16 * n + (c.toNat - 'a'.toNat + 10))
    else if 'A' ≤ c && c ≤ 'F' then hexValue? cs (16 * n + (c.toNat - 'A'.toNat + 10))
    else none

def digitsApart : Nat → Reading (List Char)
  | 0 => return []
  | n + 1 => do
    let c ← next
    space
    return c :: (← digitsApart n)

def scalar? (hex : List Char) : Option Char := do
  let n ← if hex.isEmpty then none else hexValue? hex 0
  if n.isValidChar then some (Char.ofNat n) else none

/-- A character by its number: `count` hexadecimal digits, or any number of them in braces. -/
def readScalar (count : Nat) : Reading Char := do
  space
  if ← accept "\x7b" then
    let hex ← braced
    space
    scalar? hex
  else
    scalar? (← digitsApart count)

def cutAt (sep : List Char) : List Char → Option (List Char × List Char)
  | [] => none
  | c :: cs =>
    if sep.isPrefixOf (c :: cs) then some ([], (c :: cs).drop sep.length)
    else (cutAt sep cs).map fun (a, b) => (c :: a, b)

/-- The set that a text describes, by a name or by a name and a value, and whether an operator says
that the other characters are meant. -/
def describedSet? (text : List Char) : Option (CharSet × Bool) :=
  match cutAt ['!', '='] text with
  | some (name, value) => (CharSet.valued? name value).map (·, true)
  | none =>
    match (cutAt [':'] text).or (cutAt ['='] text) with
    | some (name, value) => (CharSet.valued? name value).map (·, false)
    | none => (CharSet.named? text).map (·, false)

def readUnicodeSet (negated : Bool) : Reading CharSet := do
  space
  let f ← flags
  let c ← next
  let (set, other) ← if c == '\x7b' then describedSet? (← braced) else do
    space
    if c == '\\' then failure else (CharSet.named? [c]).map (·, false)
  if f.unicode then f.negateSet? (negated != other) (f.foldSet set) else failure

/-- What an escape or a plain character stands for. A `byte` was written as two hexadecimal
digits. -/
inductive Atom where
  | char (c : Char) (byte : Bool := false)
  | set (s : CharSet)
  | assertion (a : Assertion)

def wordEdge? : List Char → Option WordEdge
  | ['s', 't', 'a', 'r', 't'] => some .start
  | ['e', 'n', 'd'] => some .finish
  | ['s', 't', 'a', 'r', 't', '-', 'h', 'a', 'l', 'f'] => some .startHalf
  | ['e', 'n', 'd', '-', 'h', 'a', 'l', 'f'] => some .finishHalf
  | _ => none

/-- After `\b` a brace that a letter or a hyphen follows names a kind of edge; any other brace is
left for a repetition. -/
def readEdge : Reading WordEdge := do
  let before ← get
  if ← accept "\x7b" then
    space
    if (← peek?).any fun c => c.isAlpha || c == '-' then
      wordEdge? (← braced)
    else
      set before
      return .boundary
  else return .boundary

def readEscape : Reading Atom := do
  let f ← flags
  let c ← next
  match c with
  | 'x' =>
    let braces := (← peek?) == some '\x7b'
    return .char (← readScalar 2) !braces
  | 'u' => return .char (← readScalar 4)
  | 'U' => return .char (← readScalar 8)
  | 'p' => return .set (← readUnicodeSet false)
  | 'P' => return .set (← readUnicodeSet true)
  | 'd' | 's' | 'w' | 'D' | 'S' | 'W' => return .set (← f.letterSet? c)
  | 'a' => return .char '\x07'
  | 'f' => return .char '\x0c'
  | 't' => return .char '\t'
  | 'n' => return .char '\n'
  | 'r' => return .char '\r'
  | 'v' => return .char '\x0b'
  | 'A' => return .assertion .textStart
  | 'z' => return .assertion .textEnd
  | 'b' => return .assertion (f.edge (← readEdge))
  | 'B' => return .assertion (f.edge .interior)
  | '<' => return .assertion (f.edge .start)
  | '>' => return .assertion (f.edge .finish)
  | _ => if Unicode.isAscii c && !c.isAlphanum then return .char c else failure

def asItem (a : Atom) : Reading Item := do
  let f ← flags
  match a with
  | .char c byte =>
    if byte && !f.unicode && !Unicode.isAscii c then failure else return .ofChar f c
  | .set s => return .ofSet s 0
  | .assertion a => return .ofAssertion a

inductive SetOp where
  | inter
  | diff
  | symmDiff

def SetOp.apply : SetOp → CharSet → CharSet → CharSet
  | inter, a, b => .inter a b
  | diff, a, b => a.diff b
  | symmDiff, a, b => a.symmDiff b

/-- A bracketed set as far as it was read: what stands left of the last operator, and the union of
the members after it. -/
structure SetDraft where
  left : Option (SetOp × CharSet × Nat) := none
  members : CharSet := .nothing
  count : Nat := 0
  depth : Nat := 0

namespace SetDraft

def add (d : SetDraft) (s : CharSet) (depth : Nat) : SetDraft :=
  { d with
    members := if d.count == 0 then s else .union d.members s
    count := d.count + 1
    depth := max d.depth depth }

def close (f : Flags) (d : SetDraft) : CharSet × Nat :=
  let depth := if d.count ≤ 1 then d.depth else d.depth + 1
  match d.left with
  | none => (d.members, depth)
  | some (op, left, leftDepth) =>
    (op.apply (f.foldSet left) (f.foldSet d.members), max leftDepth depth + 1)

def operate (f : Flags) (d : SetDraft) (op : SetOp) : SetDraft :=
  { left := some (op, d.close f) }

end SetDraft

def readSetAtom : Reading Atom := do
  let c ← next
  if c == '\\' then readEscape else return .char c

def memberChar? (f : Flags) (c : Char) : Option Char :=
  if f.unicode || Unicode.isAscii c then some c else none

def endpoint : Atom → Reading Char
  | .char c _ => do memberChar? (← flags) c
  | _ => failure

/-- One member of a set: a character, a named set, or a range of characters. A hyphen before the
closing bracket or before another hyphen makes no range. -/
def readMember : Reading CharSet := do
  let first ← readSetAtom
  space
  let c ← next
  let beforeHyphen ← get
  if c == '-' then
    space
    match ← peek? with
    | none => failure
    | some ']' | some '-' => finish first { beforeHyphen with rest := '-' :: beforeHyphen.rest }
    | some _ =>
      let last ← readSetAtom
      let lo ← endpoint first
      let hi ← endpoint last
      if lo ≤ hi then return .range lo hi else failure
  else finish first { beforeHyphen with rest := c :: beforeHyphen.rest }
where
  finish (a : Atom) (cursor : Cursor) : Reading CharSet := do
    set cursor
    match a with
    | .char c _ => return .single (← memberChar? cursor.flags c)
    | .set s => return s
    | .assertion _ => failure

def readAsciiClass : Reading (Option CharSet) := do
  let f ← flags
  match (← get).rest with
  | ':' :: text =>
    let negated := text.head? == some '^'
    let text := if negated then text.tail else text
    match CharSet.asciiClass? (text.takeWhile (· != ':')), text.dropWhile (· != ':') with
    | some s, ':' :: ']' :: rest =>
      setRest rest
      return some (← f.negateSet? negated (f.foldSet s))
    | _, _ => return none
  | _ => return none

def readHyphens (fuel : Nat) (d : SetDraft) : Reading SetDraft :=
  match fuel with
  | 0 => failure
  | fuel + 1 => do
    if ← accept "-" then
      space
      readHyphens fuel (d.add (.single '-') 0)
    else return d

def openSet (fuel : Nat) : Reading (Bool × SetDraft) := do
  space
  let negated ← accept "^"
  space
  let d ← readHyphens fuel {}
  if d.count == 0 && (← accept "]") then
    space
    return (negated, d.add (.single ']') 0)
  return (negated, d)

def readSet (fuel : Nat) (negated : Bool) (d : SetDraft) : Reading (CharSet × Nat) :=
  match fuel with
  | 0 => failure
  | fuel + 1 => do
    space
    let f ← flags
    if ← accept "]" then
      let (s, depth) := d.close f
      return (← f.negateSet? negated (f.foldSet s), depth + 1)
    else if ← accept "[" then
      if let some s ← readAsciiClass then readSet fuel negated (d.add s 0)
      else
        let (inner, begun) ← openSet fuel
        let (s, depth) ← readSet fuel inner begun
        readSet fuel negated (d.add s depth)
    else if ← accept "&&" then readSet fuel negated (d.operate f .inter)
    else if ← accept "--" then readSet fuel negated (d.operate f .diff)
    else if ← accept "~~" then readSet fuel negated (d.operate f .symmDiff)
    else readSet fuel negated (d.add (← readMember) 0)

def decimal? (text : List Char) : Option Nat := do
  let digits := Text.trimChars text
  let n ← if digits.all Char.isDigit then (String.ofList digits).toNat? else none
  if n < UInt32.size then some n else none

def bounds? (text : List Char) : Option (Nat × Option Nat) :=
  match Text.splitAt ',' text with
  | [a] => (decimal? a).map fun n => (n, some n)
  | [a, []] => (decimal? a).map fun n => (n, none)
  | [a, b] => do
    let least ← decimal? a
    let greatest ← decimal? b
    if least ≤ greatest then some (least, some greatest) else none
  | _ => none

/-- A group as far as it was read: its complete alternatives and the items of the one being read,
both last first. -/
structure GroupDraft where
  alternatives : List Item := []
  items : List Item := []

namespace GroupDraft

def add (g : GroupDraft) (x : Item) : GroupDraft := { g with items := x :: g.items }

def alternate (g : GroupDraft) : GroupDraft :=
  { alternatives := .inOrder g.items.reverse :: g.alternatives }

def close (g : GroupDraft) : Item := .anyOf g.alternate.alternatives.reverse

def repeatLast? (g : GroupDraft) (least : Nat) (greatest : Option Nat) (greedy : Bool) :
    Option GroupDraft :=
  match g.items with
  | [] => none
  | x :: xs => (x.repeated? least greatest greedy).map fun x => { g with items := x :: xs }

end GroupDraft

def isNameStart (c : Char) : Bool := c == '_' || Unicode.isAlphabetic c

def isNamePart (c : Char) : Bool :=
  c == '_' || c == '.' || c == '[' || c == ']' || Unicode.isAlphanumeric c

def readName : Reading Unit := do
  let cursor ← get
  let name := cursor.rest.takeWhile (· != '>')
  if name.head?.any isNameStart && name.tail.all isNamePart && !cursor.names.contains name then
    set { cursor with rest := cursor.rest.dropWhile (· != '>'), names := name :: cursor.names }
    if ← accept ">" then return ()
  failure

/-- What an opening parenthesis begins: a group with flags of its own and perhaps a number, or flags
for the rest of the group around it. -/
inductive Opening where
  | group (f : Flags) (number : Option Nat)
  | flags (f : Flags)

def numbered (f : Flags) : Reading Opening := do
  let cursor ← get
  set { cursor with groups := cursor.groups + 1 }
  return .group f (some (cursor.groups + 1))

def readOpening : Reading Opening := do
  space
  let f ← flags
  if ← acceptAny ["?=", "?!", "?<=", "?<!"] then failure
  if ← acceptAny ["?P<", "?<"] then
    readName
    numbered f
  else if ← accept "?" then
    let (f, colon, rest) ← f.read? [] true false (← get).rest
    setRest rest
    return if colon then .group f none else .flags f
  else numbered f

def repeatLast (g : GroupDraft) (least : Nat) (greatest : Option Nat) : Reading GroupDraft := do
  let shortest ← accept "?"
  g.repeatLast? least greatest (shortest == (← flags).swapGreed)

def repeatByMark (g : GroupDraft) (least : Nat) (greatest : Option Nat) : Reading GroupDraft := do
  let _ ← next
  repeatLast g least greatest

/-- The rest of a group after what is in `g`, up to its closing parenthesis or the end. -/
def readGroup (fuel : Nat) (g : GroupDraft) : Reading Item :=
  match fuel with
  | 0 => failure
  | fuel + 1 => do
    space
    let f ← flags
    match ← peek? with
    | none | some ')' => return g.close
    | some '|' =>
      let _ ← next
      readGroup fuel g.alternate
    | some '(' =>
      let _ ← next
      match ← readOpening with
      | .flags own =>
        setFlags own
        readGroup fuel (g.add { expression := .empty, repeatable := false })
      | .group own number =>
        setFlags own
        let x ← readGroup fuel {}
        if ← accept ")" then
          setFlags f
          readGroup fuel (g.add (x.grouped number))
        else failure
    | some '[' =>
      let _ ← next
      let (negated, begun) ← openSet fuel
      let (s, depth) ← readSet fuel negated begun
      readGroup fuel (g.add (.ofSet s depth))
    | some '?' => readGroup fuel (← repeatByMark g 0 (some 1))
    | some '*' => readGroup fuel (← repeatByMark g 0 none)
    | some '+' => readGroup fuel (← repeatByMark g 1 none)
    | some '{' =>
      let _ ← next
      let (least, greatest) ← bounds? (← braced)
      space
      readGroup fuel (← repeatLast g least greatest)
    | some '.' =>
      let _ ← next
      readGroup fuel (g.add (.ofSet (← f.dot?) 0))
    | some '^' =>
      let _ ← next
      readGroup fuel (g.add (.ofAssertion f.lineStart))
    | some '$' =>
      let _ ← next
      readGroup fuel (g.add (.ofAssertion f.lineEnd))
    | some _ => readGroup fuel (g.add (← asItem (← readSetAtom)))

def readWhole : Reading Item := do
  let x ← readGroup ((← get).rest.length + 1) {}
  if (← peek?).isNone then return x else failure

/-- The pattern that `text` writes, unless it is nested too deeply or takes too much room. -/
def read? (text : String) : Option Pattern := do
  let (x, _) ← readWhole.run { rest := text.toList }
  if x.depth ≤ maxDepth && x.expression.fits then some x.expression.toPattern else none

end FixGrader.Pattern
