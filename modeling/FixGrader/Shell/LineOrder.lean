import FixGrader.Shell.Filter

namespace FixGrader.Shell.LineOrder

structure Order where
  numeric : Bool := false
  hasUnits : Bool := false
  folded : Bool := false
  backward : Bool := false
  skipsBlanks : Bool := false
  deriving DecidableEq, Repr

def Order.add (o : Order) (letter : Char) : Order :=
  match letter with
  | 'n' | 'g' => { o with numeric := true }
  | 'h' => { o with numeric := true, hasUnits := true }
  | 'f' => { o with folded := true }
  | 'r' => { o with backward := true }
  | 'b' => { o with skipsBlanks := true }
  | _ => o

/-- Where a key begins or ends: a field, from one, and a character of it if not all are meant. -/
structure Spot where
  field : Nat
  character : Option Nat
  deriving Repr

structure Key where
  first : Spot
  last : Option Spot
  order : Order
  deriving Repr

def isBlank (c : Char) : Bool := c == ' ' || c == '\t'

/-- Where each field of a line begins and ends. Without a separator, the blanks before a field
belong to it. Every field takes a character, or the last one none. -/
def fields (separator : Option Char) : (fuel : Nat) → (start : Nat) → List Char → List (Nat × Nat)
  | 0, _, _ => []
  | fuel + 1, start, line =>
    match separator with
    | some c =>
      let size := (line.takeWhile (· != c)).length
      let rest := line.drop (size + 1)
      (start, start + size) ::
        if size < line.length then fields separator fuel (start + size + 1) rest else []
    | none =>
      let blanks := (line.takeWhile isBlank).length
      let size := blanks + ((line.drop blanks).takeWhile (!isBlank ·)).length
      (start, start + size) ::
        if size < line.length then fields separator fuel (start + size) (line.drop size) else []

def Key.text (separator : Option Char) (order : Order) (k : Key) (line : List Char) : List Char :=
  let spans := fields separator (line.length + 1) 0 line
  let start := match spans[k.first.field - 1]? with
    | some (a, _) => a + (k.first.character.getD 1 - 1)
    | none => line.length
  let stop := match k.last with
    | none => line.length
    | some spot =>
      match spans[spot.field - 1]?, spot.character with
      | some (_, b), none => b
      | some (a, _), some n => a + n
      | none, _ => line.length
  let text := (line.take stop).drop start
  if order.skipsBlanks then text.dropWhile isBlank else text

/-- The number at the beginning of a text, in billionths, after the rank of its unit. -/
def leadingNumber (hasUnits : Bool) (text : List Char) : Int × Int :=
  let s := text.dropWhile isBlank
  let (sign, s) : Int × List Char := match s with
    | '-' :: rest => (-1, rest)
    | s => (1, s)
  let (places, rest) := match s.dropWhile Char.isDigit with
    | '.' :: rest => ((rest.takeWhile Char.isDigit).take 9, rest.dropWhile Char.isDigit)
    | rest => ([], rest)
  let digits := s.takeWhile Char.isDigit ++ places ++ List.replicate (9 - places.length) '0'
  let n : Int := (digits.foldl (fun n c => 10 * n + (c.toNat - '0'.toNat)) 0 : Nat)
  let unit := (rest.head?.bind "KMGTPEZY".toList.idxOf?).map (· + 1)
  (if hasUnits && n != 0 then sign * (unit.getD 0 : Nat) else 0, sign * n)

def Order.compare (o : Order) (a b : List Char) : Ordering :=
  let result :=
    if o.numeric then
      let (m, n) := (leadingNumber o.hasUnits a, leadingNumber o.hasUnits b)
      (Ord.compare m.1 n.1).then (Ord.compare m.2 n.2)
    else
      let fold (s : List Char) : String := String.ofList (if o.folded then s.map Char.toUpper else s)
      Ord.compare (fold a) (fold b)
  if o.backward then result.swap else result

structure Plan where
  order : Order := {}
  separator : Option Char := none
  keys : List Key := []
  unique : Bool := false
  stable : Bool := false
  checks : Bool := false
  quiet : Bool := false
  target : Option String := none
  paths : List String := []

def Plan.compareKeys (p : Plan) (a b : List Char) : Ordering :=
  if p.keys.isEmpty then
    let whole (line : List Char) : List Char :=
      if p.order.skipsBlanks then line.dropWhile isBlank else line
    p.order.compare (whole a) (whole b)
  else
    p.keys.foldl (fun result k =>
      let order := if k.order == {} then p.order else k.order
      let text := k.text p.separator order
      result.then (order.compare (text a) (text b))) .eq

def Plan.compare (p : Plan) (a b : List Char) : Ordering :=
  let last := { backward := p.order.backward : Order }.compare a b
  (p.compareKeys a b).then (if p.stable || p.unique then .eq else last)

def distinct (alike : List Char → List Char → Bool) (lines : List (List Char)) : List (List Char) :=
  lines.foldr (fun line rest =>
    match rest with
    | next :: rest => if alike line next then line :: rest else line :: next :: rest
    | [] => [line]) []

def Plan.sort (p : Plan) (lines : List (List Char)) : List (List Char) :=
  let sorted := lines.mergeSort fun a b => p.compare a b != .gt
  if p.unique then distinct (fun a b => p.compareKeys a b == .eq) sorted else sorted

def Plan.disorder? (p : Plan) (lines : List (List Char)) : Option (Nat × List Char) :=
  let isWrong (a b : List Char) : Bool :=
    match p.compare a b with
    | .gt => true
    | .eq => p.unique
    | .lt => false
  ((lines.zip (lines.drop 1)).zipIdx 2).findSome? fun ((a, b), n) =>
    if isWrong a b then some (n, b) else none

def readSpot? (s : List Char) : Option (Spot × List Char) :=
  let number (s : List Char) : Option Nat := (String.ofList (s.takeWhile Char.isDigit)).toNat?
  match number s, s.dropWhile Char.isDigit with
  | none, _ => none
  | some field, '.' :: rest =>
    (number rest).map fun n => (⟨field, if n = 0 then none else some n⟩, rest.dropWhile Char.isDigit)
  | some field, rest => some (⟨field, none⟩, rest)

def readKey? (s : String) : Option Key := do
  let letters (s : List Char) : List Char := s.takeWhile Char.isAlpha
  let order (s : List Char) : Order := s.foldl Order.add {}
  let (first, rest) ← readSpot? s.toList
  let before := letters rest
  match rest.drop before.length with
  | [] => return ⟨first, none, order before⟩
  | ',' :: rest =>
    let (last, rest) ← readSpot? rest
    if !rest.all Char.isAlpha then none
    else return ⟨first, some last, order (before ++ rest)⟩
  | _ => none

def Plan.give (p : Plan) (letter : Char) (value : String) : Except String Plan :=
  match letter with
  | 'k' =>
    match readKey? value with
    | some key => .ok { p with keys := p.keys ++ [key] }
    | none =>
      let start := String.ofList (value.toList.dropWhile Char.isDigit)
      .error s!"invalid number at field start: invalid count at start of '{start}'"
  | 't' =>
    match value.toList with
    | [c] => .ok { p with separator := some c }
    | ['\\', '0'] => .ok { p with separator := some '\x00' }
    | [] => .error "empty tab"
    | _ => .error s!"multi-character tab '{value}'"
  | 'o' => .ok { p with target := some value }
  | _ => .ok p

def Plan.switch (p : Plan) (letter : Char) : Plan :=
  match letter with
  | 'u' => { p with unique := true }
  | 's' => { p with stable := true }
  | 'c' => { p with checks := true }
  | 'C' => { p with checks := true, quiet := true }
  | c => { p with order := p.order.add c }

inductive Misuse where
  | unknown (letter : Char)
  | lacksValue (letter : Char)
  | bad (problem : String)

def valueLetters : List Char := ['k', 't', 'o', 'S', 'T']

def plainLetters : List Char := "bdfghiMnRrVcCmsuz".toList

/-- Reads the arguments of `sort`; `letters` are those of an option that are still to be read. Every
step takes a character or an argument. -/
def Plan.ofArgs (p : Plan) : (fuel : Nat) → (letters : List Char) → List String → Except Misuse Plan
  | 0, _, _ => .ok p
  | _ + 1, [], [] => .ok p
  | fuel + 1, [], arg :: rest =>
    match arg.toList with
    | ['-', '-'] => .ok { p with paths := p.paths ++ rest }
    | '-' :: c :: letters => p.ofArgs fuel (c :: letters) rest
    | _ => { p with paths := p.paths ++ [arg] }.ofArgs fuel [] rest
  | fuel + 1, c :: letters, args =>
    if plainLetters.contains c then (p.switch c).ofArgs fuel letters args
    else if !valueLetters.contains c then .error (.unknown c)
    else
      match if letters.isEmpty then args else String.ofList letters :: args with
      | [] => .error (.lacksValue c)
      | value :: args =>
        match p.give c value with
        | .ok p => p.ofArgs fuel [] args
        | .error problem => .error (.bad problem)

def readLines : List String → Act (Except String (List (List Char)))
  | [] => return .ok []
  | path :: rest => do
    match ← Filter.readFile path with
    | .error .isDirectory => return .error s!"read failed: {path}: Is a directory"
    | .error fault => return .error s!"cannot read: {path}: {Filter.faultText fault}"
    | .ok input =>
      let lines := Filter.bareLines (← Act.keepWhole 2 input)
      match ← readLines rest with
      | .error problem => return .error problem
      | .ok more => return .ok (lines ++ more)

def check (p : Plan) (lines : List (List Char)) : Act Nat := do
  match p.disorder? lines with
  | none => return 0
  | some (n, line) =>
    let path := p.paths.headD "-"
    if !p.quiet then Act.tell s!"{path}:{n}: disorder: {String.ofList line}"
    return 1

def sort (args : List String) : Act Nat := do
  let size := (args.map fun a => a.length + 1).foldl (· + ·) 1
  let fail (problem : String) : Act Nat := do
    Act.tell problem
    return 2
  match Plan.ofArgs {} size [] args with
  | .error (.unknown c) =>
    discard (Argument.badOption c)
    return 2
  | .error (.lacksValue c) =>
    discard (Argument.misuse s!"option requires an argument -- '{c}'")
    return 2
  | .error (.bad problem) => fail problem
  | .ok p =>
    match ← readLines (if p.paths.isEmpty then ["-"] else p.paths) with
    | .error problem => fail problem
    | .ok lines =>
      if p.checks then check p lines
      else
        let text := String.ofList (Filter.joinLines (p.sort lines))
        match p.target with
        | none =>
          Act.print text
          return 0
        | some path =>
          let s ← get
          match s.files.writeBytes path (Text.Bytes.toNats text) with
          | .ok files =>
            set { s with files := files }
            return 0
          | .error fault => fail s!"open failed: {path}: {Filter.faultText fault}"

end FixGrader.Shell.LineOrder
