import FixGrader.Shell.Arithmetic

namespace FixGrader.Shell

/-- How many binary digits a number has, and which powers of two its last digit can stand for. -/
structure Precision where
  digits : Nat
  least : Int
  greatest : Int
  deriving DecidableEq, Repr

def Precision.double : Precision := ⟨53, -1074, 971⟩

def Precision.extended : Precision := ⟨64, -16445, 16320⟩

inductive Magnitude where
  | finite (numerator denominator : Nat)
  | infinite
  | undefined
  deriving DecidableEq, Repr

namespace Magnitude

def roundDiv (a b : Nat) : Nat :=
  let r := 2 * (a % b)
  if b < r || (r == b && a / b % 2 == 1) then a / b + 1 else a / b

def scaled (base a b : Nat) (exponent : Int) : Nat × Nat :=
  if 0 ≤ exponent then (a, b * Nat.pow base exponent.toNat)
  else (a * Nat.pow base (-exponent).toNat, b)

def nearest (p : Precision) (a b : Nat) : Magnitude × Bool :=
  if a = 0 then (.finite 0 1, false)
  else
    let guess : Int := (Nat.log2 a : Int) - Nat.log2 b - (p.digits - 1 : Nat)
    let (n, d) := scaled 2 a b guess
    let exact := if n < d * Nat.pow 2 (p.digits - 1) then guess - 1 else guess
    let exponent := max exact p.least
    let (n, d) := scaled 2 a b exponent
    let m := roundDiv n d
    if p.greatest < exponent || (exponent == p.greatest && m == Nat.pow 2 p.digits) then
      (.infinite, true)
    else
      let (n', d') := scaled 2 m 1 (-exponent)
      (.finite n' d', exact < p.least && n % d != 0)

def readDigits? (base : Nat) (isDigit : Char → Bool) (s : List Char) :
    Option (Nat × Nat × List Char) :=
  let whole := s.takeWhile isDigit
  let (part, rest) := match s.drop whole.length with
    | '.' :: rest => (rest.takeWhile isDigit, rest.dropWhile isDigit)
    | rest => ([], rest)
  if whole.isEmpty && part.isEmpty then none
  else some ((Arithmetic.ofDigits base (whole ++ part)).toNat, part.length, rest)

def readExponent (letter : Char) (s : List Char) : Int × List Char :=
  match s with
  | c :: rest =>
    let (sign, digits) : Int × List Char := match rest with
      | '-' :: rest => (-1, rest)
      | '+' :: rest => (1, rest)
      | rest => (1, rest)
    let number := digits.takeWhile Char.isDigit
    if c.toLower != letter || number.isEmpty then (0, s)
    else (sign * Arithmetic.ofDigits 10 number, digits.drop number.length)
  | [] => (0, s)

def farExponent : Int := 20000

def ofDecimal (p : Precision) (n : Nat) (exponent : Int) : Magnitude × Bool :=
  let size : Int := (toString n).length + exponent
  if n = 0 then (.finite 0 1, false)
  else if farExponent < size then (.infinite, true)
  else if size < -farExponent then (.finite 0 1, true)
  else
    let (a, b) := scaled 10 n 1 (-exponent)
    nearest p a b

def dropWord? (word : String) (s : List Char) : Option (List Char) :=
  if (s.take word.length).map Char.toLower == word.toList then some (s.drop word.length) else none

def read? (p : Precision) (s : List Char) : Option (Magnitude × Bool × List Char) :=
  let word? := (dropWord? "infinity" s).orElse fun _ => dropWord? "inf" s
  match word?, dropWord? "nan" s, (dropWord? "0x" s).bind (readDigits? 16 Arithmetic.isHexDigit) with
  | some rest, _, _ => some (.infinite, false, rest)
  | none, some rest, _ => some (.undefined, false, rest)
  | none, none, some (n, places, rest) =>
    let (exponent, rest) := readExponent 'p' rest
    let exponent := max (-farExponent) (min farExponent exponent)
    let (a, b) := scaled 2 n 1 (4 * places - exponent)
    let (m, far) := nearest p a b
    some (m, far, rest)
  | none, none, none =>
    (readDigits? 10 Char.isDigit s).map fun (n, places, rest) =>
      let (exponent, rest) := readExponent 'e' rest
      let (m, far) := ofDecimal p n (exponent - places)
      (m, far, rest)

def mostPlaces : Nat := 17000

def digits (size n : Nat) : List Char :=
  let text := (toString n).toList
  List.replicate (size - text.length) '0' ++ text

def withPoint (always : Bool) (whole part : List Char) : List Char :=
  if part.isEmpty && !always then whole else whole ++ '.' :: part

def fixed (always : Bool) (places a b : Nat) : List Char :=
  let exact := min places mostPlaces
  let text := digits (exact + 1) (roundDiv (a * Nat.pow 10 exact) b)
  let zeros := List.replicate (places - exact) '0'
  withPoint always (text.take (text.length - exact)) (text.drop (text.length - exact) ++ zeros)

def leading (a b : Nat) : Int :=
  if b ≤ a then (toString (a / b)).length - 1
  else
    let size := (toString (b / a)).length
    if b ≤ a * Nat.pow 10 (size - 1) then -((size - 1 : Nat) : Int) else -(size : Int)

def significant (places a b : Nat) : Nat × Int :=
  if a = 0 then (0, 0)
  else
    let k := leading a b
    let (n, d) := scaled 10 a b (k - places)
    let m := roundDiv n d
    if m == Nat.pow 10 (places + 1) then (m / 10, k + 1) else (m, k)

def exponentText (k : Int) : List Char :=
  'e' :: (if k < 0 then '-' else '+') :: digits 2 k.natAbs

def scientific (always : Bool) (places a b : Nat) : List Char :=
  let exact := min places mostPlaces
  let (m, k) := significant exact a b
  let text := digits (exact + 1) m
  let zeros := List.replicate (places - exact) '0'
  withPoint always (text.take 1) (text.drop 1 ++ zeros) ++ exponentText k

/-- Writes the first `size` digits of `a / b`, with a power of ten where that is shorter; zeros at
the end are left out unless asked for. -/
def general (always : Bool) (size a b : Nat) : List Char :=
  let size := max size 1
  let exact := min (size - 1) mostPlaces
  let (m, k) := significant exact a b
  let trim (text : List Char) : List Char :=
    if always || !text.contains '.' then text
    else Text.dropEndWhile (· == '.') (Text.dropEndWhile (· == '0') text)
  if k < -4 || (size : Int) ≤ k then
    let text := digits (exact + 1) m
    trim (withPoint always (text.take 1) (text.drop 1)) ++ exponentText k
  else trim (fixed always (size - 1 - k).toNat a b)

/-- Writes a number as the letter of a conversion asks; infinity and what is no number have
names. -/
def write (letter : Char) (always : Bool) (places : Option Nat) (m : Magnitude) : List Char :=
  let places := places.getD 6
  let text := match m with
    | .infinite => "inf".toList
    | .undefined => "nan".toList
    | .finite a b =>
      match letter.toLower with
      | 'f' => fixed always places a b
      | 'e' => scientific always places a b
      | _ => general always places a b
  if letter.isUpper then text.map Char.toUpper else text

end Magnitude

end FixGrader.Shell
