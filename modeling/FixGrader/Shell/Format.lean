import FixGrader.Shell.Magnitude

namespace FixGrader.Shell.Format

def simpleEscape? : Char → Option Char
  | 'a' => some '\x07'
  | 'b' => some '\x08'
  | 'e' => some '\x1b'
  | 'f' => some '\x0c'
  | 'n' => some '\n'
  | 'r' => some '\r'
  | 't' => some '\t'
  | 'v' => some '\x0b'
  | '\\' => some '\\'
  | _ => none

def isOctal (c : Char) : Bool := '0' ≤ c && c ≤ '7'

def byte (n : Int) : Char := Char.ofNat (n.toNat % 0x100)

def readOctal (s : List Char) : Char × List Char :=
  let digits := (s.take 3).takeWhile isOctal
  (byte (Arithmetic.ofDigits 8 digits), s.drop digits.length)

/-- Which escapes are known besides the usual ones. -/
structure Escapes where
  inArgument : Bool := false
  hexadecimal : Bool := false

/-- What comes of the escape at the beginning of a text, after its backslash. -/
inductive Escaped where
  | char (c : Char) (rest : List Char)
  | stop
  | none

def readEscape (e : Escapes) (ends : Bool) (s : List Char) : Escaped :=
  match s with
  | [] => .none
  | c :: rest =>
    let hex := (rest.take 2).takeWhile Arithmetic.isHexDigit
    if ends && c == 'c' then .stop
    else if e.inArgument && c == '0' then
      let (b, rest) := readOctal rest
      .char b rest
    else if isOctal c then
      let (b, rest) := readOctal (c :: rest)
      .char b rest
    else if e.hexadecimal && c == 'x' && !hex.isEmpty then
      .char (byte (Arithmetic.ofDigits 16 hex)) (rest.drop hex.length)
    else if e.hexadecimal && c == '"' then .char '"' rest
    else
      match simpleEscape? c with
      | some b => .char b rest
      | Option.none => .none

/-- Replaces escapes. The flag tells that an escape ends all output. Every step takes a
character. -/
def unescape (e : Escapes) : (fuel : Nat) → List Char → List Char × Bool
  | 0, s => (s, false)
  | _ + 1, [] => ([], false)
  | fuel + 1, c :: rest =>
    let add (c : Char) (rest : List Char) : List Char × Bool :=
      let (more, stop) := unescape e fuel rest
      (c :: more, stop)
    if c == '\\' then
      match readEscape e e.inArgument rest with
      | .char b rest => add b rest
      | .stop => ([], true)
      | .none => add c rest
    else add c rest

structure Layout where
  left : Bool := false
  zeros : Bool := false
  plus : Bool := false
  blank : Bool := false
  marked : Bool := false
  width : Nat := 0
  places : Option Nat := none

def maxWidth : Nat := 0x400000

/-- Brings `sign` and `body` to the width, by zeros between them if `fills` allows that. -/
def Layout.pad (l : Layout) (fills : Bool) (sign body : List Char) : List Char :=
  let fill := min l.width maxWidth - (sign.length + body.length)
  if l.left then sign ++ body ++ List.replicate fill ' '
  else if l.zeros && fills then sign ++ List.replicate fill '0' ++ body
  else List.replicate fill ' ' ++ sign ++ body

def Layout.text (l : Layout) (s : List Char) : List Char :=
  l.pad false [] (s.take (l.places.getD s.length))

def Layout.sign (l : Layout) (negative : Bool) : List Char :=
  if negative then ['-'] else if l.plus then ['+'] else if l.blank then [' '] else []

def Layout.digits (l : Layout) (base n : Nat) : List Char :=
  let digits := if n = 0 && l.places == some 0 then [] else Nat.toDigits base n
  List.replicate (min (l.places.getD 0) maxWidth - digits.length) '0' ++ digits

def Layout.signed (l : Layout) (n : Int) : List Char :=
  l.pad l.places.isNone (l.sign (n < 0)) (l.digits 10 n.natAbs)

def Layout.unsigned (l : Layout) (letter : Char) (n : Nat) : List Char :=
  match letter with
  | 'o' =>
    let digits := l.digits 8 n
    let digits := if l.marked && digits.head? != some '0' then '0' :: digits else digits
    l.pad l.places.isNone [] digits
  | 'x' => l.pad l.places.isNone (if l.marked && n != 0 then ['0', 'x'] else []) (l.digits 16 n)
  | 'X' =>
    l.pad l.places.isNone (if l.marked && n != 0 then ['0', 'X'] else [])
      ((l.digits 16 n).map Char.toUpper)
  | _ => l.pad l.places.isNone [] (l.digits 10 n)

inductive Fault where
  | notNumber (text : String)
  | partly (text : String)
  | outOfRange (text : String)
  | directive (text : String)
  | noLetter
  deriving DecidableEq, Repr

def Fault.message : Fault → String
  | notNumber text => text ++ ": expected numeric value"
  | partly text => text ++ ": not completely converted"
  | outOfRange text => text ++ ": Numerical result out of range"
  | directive text => text ++ ": invalid directive"
  | noLetter => "missing format character"

def Fault.told : Fault → String
  | notNumber text => s!"'{text}': expected a numeric value"
  | partly text => s!"'{text}': value not completely converted"
  | outOfRange text => s!"'{text}': Numerical result out of range"
  | directive text => text ++ ": invalid conversion specification"
  | noLetter => "%: invalid conversion specification"

structure Dialect where
  escapes : Escapes := {}
  ends : Bool := false
  precision : Precision := .double

def isSpace (c : Char) : Bool := c == ' ' || ('\t' ≤ c && c ≤ '\r')

/-- The digits of an integer at the beginning of a text: octal ones after a zero, hexadecimal ones
after `0x`. -/
def readDigits? (s : List Char) : Option (Nat × List Char) :=
  let take (base : Nat) (p : Char → Bool) (s : List Char) : Option (Nat × List Char) :=
    let ds := s.takeWhile p
    if ds.isEmpty then none else some ((Arithmetic.ofDigits base ds).toNat, s.drop ds.length)
  let hexadecimal := match s with
    | '0' :: x :: rest => if x == 'x' || x == 'X' then take 16 Arithmetic.isHexDigit rest else none
    | _ => none
  hexadecimal.orElse fun _ =>
    if s.head? == some '0' then take 8 isOctal s else take 10 Char.isDigit s

def readSign (s : List Char) : Bool × List Char :=
  match s with
  | '-' :: rest => (true, rest)
  | '+' :: rest => (false, rest)
  | rest => (false, rest)

/-- A number in an argument and what is wrong with that, if `read?` takes a number, whether it is
out of range, and the rest out of it. -/
def argument {α : Type} (zero : α) (ofChar : Nat → α)
    (read? : Bool → List Char → Option (α × Bool × List Char)) (s : String) : α × Option Fault :=
  match s.toList with
  | '\'' :: rest | '"' :: rest => (ofChar ((rest.head?.map Char.toNat).getD 0), none)
  | [] => (zero, none)
  | chars =>
    let (negative, digits) := readSign (chars.dropWhile isSpace)
    match read? negative digits with
    | none => (zero, some (.notNumber s))
    | some (n, far, []) => (n, if far then some (.outOfRange s) else none)
    | some (n, _, _) => (n, some (.partly s))

def signedArgument : String → Int × Option Fault :=
  argument 0 Int.ofNat fun negative s =>
    (readDigits? s).map fun (n, rest) =>
      let most := if negative then 0x8000000000000000 else 0x7FFFFFFFFFFFFFFF
      let size : Int := min n most
      (if negative then -size else size, most < n, rest)

def unsignedArgument : String → Nat × Option Fault :=
  argument 0 id fun negative s =>
    (readDigits? s).map fun (n, rest) =>
      if UInt64.size ≤ n then (UInt64.size - 1, true, rest)
      else (if negative then (UInt64.size - n) % UInt64.size else n, false, rest)

def fractionArgument (p : Precision) : String → (Bool × Magnitude) × Option Fault :=
  argument (false, .finite 0 1) (fun n => (false, .finite n 1)) fun negative s =>
    (Magnitude.read? p s).map fun (m, far, rest) => ((negative, m), far, rest)

structure Output where
  written : List Char := []
  left : List String
  faults : List Fault := []
  refusal : Option Fault := none
  stopped : Bool := false
  used : Bool := false

namespace Output

def write (o : Output) (s : List Char) : Output := { o with written := s.reverse ++ o.written }

def next (o : Output) : String × Output :=
  (o.left.headD "", { o with left := o.left.drop 1, used := true })

def take {α : Type} (read : String → α × Option Fault) (o : Output) : α × Output :=
  let (arg, o) := o.next
  let (value, fault) := read arg
  (value, { o with faults := o.faults ++ fault.toList })

def isOver (o : Output) : Bool := o.stopped || o.refusal.isSome

def text (o : Output) : String := String.ofList o.written.reverse

end Output

def readFlags (l : Layout) : List Char → Layout × List Char
  | '-' :: rest => readFlags { l with left := true } rest
  | '0' :: rest => readFlags { l with zeros := true } rest
  | '+' :: rest => readFlags { l with plus := true } rest
  | ' ' :: rest => readFlags { l with blank := true } rest
  | '#' :: rest => readFlags { l with marked := true } rest
  | rest => (l, rest)

def readCount (s : List Char) (o : Output) : Int × List Char × Output :=
  match s with
  | '*' :: rest =>
    let (n, o) := o.take signedArgument
    (n, rest, o)
  | s => (Arithmetic.ofDigits 10 (s.takeWhile Char.isDigit), s.dropWhile Char.isDigit, o)

def readLayout (s : List Char) (o : Output) : Layout × List Char × Output :=
  let (l, rest) := readFlags {} s
  let (width, rest, o) := readCount rest o
  let l := { l with width := width.natAbs, left := l.left || width < 0 }
  match rest with
  | '.' :: rest =>
    let (places, rest, o) := readCount rest o
    ({ l with places := if places < 0 then none else some places.toNat }, rest, o)
  | rest => (l, rest, o)

def convert (d : Dialect) (l : Layout) (letter : Char) (o : Output) : Option Output :=
  match letter with
  | 's' =>
    let (arg, o) := o.next
    some (o.write (l.text arg.toList))
  | 'c' =>
    let (arg, o) := o.next
    some (o.write (l.pad false [] [arg.toList.headD '\x00']))
  | 'b' =>
    let (arg, o) := o.next
    let (text, stop) := unescape { d.escapes with inArgument := true } (arg.length + 1) arg.toList
    some { o.write (l.text text) with stopped := stop }
  | 'd' | 'i' =>
    let (n, o) := o.take signedArgument
    some (o.write (l.signed n))
  | 'u' | 'o' | 'x' | 'X' =>
    let (n, o) := o.take unsignedArgument
    some (o.write (l.unsigned letter n))
  | 'e' | 'E' | 'f' | 'F' | 'g' | 'G' =>
    let ((negative, m), o) := o.take (fractionArgument d.precision)
    let fills := match m with
      | .finite .. => true
      | _ => false
    let places := l.places.map (min maxWidth)
    some (o.write (l.pad fills (l.sign negative) (m.write letter l.marked places)))
  | _ => none

def once (d : Dialect) : (fuel : Nat) → List Char → Output → Output
  | 0, _, o => o
  | _ + 1, [], o => o
  | fuel + 1, '%' :: '%' :: rest, o => once d fuel rest (o.write ['%'])
  | fuel + 1, '%' :: spec, o =>
    let (l, rest, o) := readLayout spec o
    match rest with
    | [] => { o with refusal := some .noLetter }
    | letter :: rest =>
      match convert d l letter o with
      | none =>
        let text := '%' :: spec.take (spec.length - rest.length)
        { o with refusal := some (.directive (String.ofList text)) }
      | some o => if o.stopped then o else once d fuel rest o
  | fuel + 1, '\\' :: rest, o =>
    match readEscape d.escapes d.ends rest with
    | .char c rest => once d fuel rest (o.write [c])
    | .stop => { o with stopped := true }
    | .none => once d fuel rest (o.write ['\\'])
  | fuel + 1, c :: rest, o => once d fuel rest (o.write [c])

def repeatedly (d : Dialect) (format : List Char) : (fuel : Nat) → Output → Output
  | 0, o => o
  | fuel + 1, o =>
    let o := once d (format.length + 1) format o
    if o.isOver || o.left.isEmpty || !o.used then o else repeatedly d format fuel o

def run (d : Dialect) (format : String) (args : List String) : Output :=
  repeatedly d format.toList (args.length + 1) { left := args }

end FixGrader.Shell.Format
