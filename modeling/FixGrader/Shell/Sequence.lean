import FixGrader.Shell.Argument

namespace FixGrader.Shell.Sequence

/-- The number `units / 10 ^ places`. -/
structure Fraction where
  units : Int
  places : Nat
  deriving Repr

def Fraction.ofText? (s : String) : Option Fraction :=
  let (sign, chars) : Int × List Char := match s.toList with
    | '-' :: rest => (-1, rest)
    | '+' :: rest => (1, rest)
    | rest => (1, rest)
  let whole := chars.takeWhile Char.isDigit
  let (part, rest) := match chars.drop whole.length with
    | '.' :: rest => (rest.takeWhile Char.isDigit, rest.dropWhile Char.isDigit)
    | rest => ([], rest)
  let value (digits : List Char) : Nat :=
    digits.foldl (fun n c => 10 * n + (c.toNat - '0'.toNat)) 0
  let fraction : Fraction := ⟨sign * value (whole ++ part), part.length⟩
  if whole.isEmpty && part.isEmpty then none
  else
    match rest with
    | [] => some fraction
    | 'e' :: digits =>
      if digits.isEmpty || !digits.all Char.isDigit then none
      else
        let n := min (value digits) 30
        some ⟨fraction.units * (Nat.pow 10 (n - part.length) : Nat), part.length - n⟩
    | _ => none

def Fraction.scaled (f : Fraction) (places : Nat) : Int :=
  f.units * (Nat.pow 10 (places - f.places) : Nat)

def write (places width : Nat) (units : Int) : String :=
  let sign := if units < 0 then "-" else ""
  let n := units.natAbs
  let unit := Nat.pow 10 places
  let part := toString (n % unit)
  let tail := if places = 0 then "" else "." ++ "".pushn '0' (places - part.length) ++ part
  let text := toString (n / unit) ++ tail
  sign ++ "".pushn '0' (width - sign.length - text.length) ++ text

inductive Fault where
  | missing
  | extra (word : String)
  | notNumber (word : String)
  | zeroStep (word : String)

def Fault.message : Fault → String
  | missing => "missing operand"
  | extra word => s!"extra operand '{word}'"
  | notNumber word => s!"invalid floating point argument: '{word}'"
  | zeroStep word => s!"invalid Zero increment value: '{word}'"

def numbers (padded : Bool) (words : List String) : Except Fault (List String) := do
  let (first, step, last) ← match words with
    | [] => .error .missing
    | [last] => .ok ("1", "1", last)
    | [first, last] => .ok (first, "1", last)
    | [first, step, last] => .ok (first, step, last)
    | _ :: _ :: _ :: word :: _ => .error (.extra word)
  let read (s : String) : Except Fault Fraction :=
    match Fraction.ofText? s with
    | some f => .ok f
    | none => .error (.notNumber s)
  let a ← read first
  let d ← read step
  let z ← read last
  if d.units = 0 then .error (.zeroStep step)
  else
    let shown := max a.places d.places
    let places := max shown z.places
    let (a, d, z) := (a.scaled places, d.scaled places, z.scaled places)
    let count := if (0 < d && z < a) || (d < 0 && a < z) then 0 else ((z - a) / d + 1).toNat
    let drop := (Nat.pow 10 (places - shown) : Nat)
    let text (width : Nat) (i : Nat) : String := write shown width ((a + d * i) / drop)
    let width := if padded then max (text 0 0).length (text 0 (count - 1)).length else 0
    return (List.range count).map (text width)

def run (args : List String) : Act Nat := do
  let isOption (a : String) : Bool :=
    match a.toList with
    | '-' :: c :: _ => !c.isDigit && c != '.'
    | _ => false
  let (separator, args) := Argument.take 's' args
  let (options, words) := args.partition isOption
  match numbers (options.contains "-w") words with
  | .error fault => Argument.misuse fault.message
  | .ok [] => return 0
  | .ok texts =>
    Act.print ((separator.getD "\n").intercalate texts ++ "\n")
    return 0

end FixGrader.Shell.Sequence
