import FixGrader.Text.Blank

namespace FixGrader.Shell.Permission

def all : Nat := 0o777

def owned : Char → Option Nat
  | 'u' => some 0o700
  | 'g' => some 0o070
  | 'o' => some 0o007
  | 'a' => some all
  | _ => none

def kind : Char → Option Nat
  | 'r' => some 0o444
  | 'w' => some 0o222
  | 'x' => some 0o111
  | _ => none

def join (bits : List Nat) : Nat := bits.foldl (· ||| ·) 0

def octal? (s : String) : Option Nat :=
  let digits := s.toList
  if digits.isEmpty || !digits.all fun c => '0' ≤ c && c ≤ '7' then none
  else some (digits.foldl (fun n c => 8 * n + (c.toNat - '0'.toNat)) 0)

/-- Changes a mode by the operators of a part such as `u+x-w`. Every step takes a character. -/
def change? (owners : Nat) : (fuel : Nat) → Nat → List Char → Option Nat
  | 0, _, _ => none
  | _ + 1, mode, [] => some mode
  | fuel + 1, mode, op :: rest =>
    let letters := rest.takeWhile fun c => (kind c).isSome
    let bits := owners &&& join (letters.filterMap kind)
    let rest := rest.drop letters.length
    match op with
    | '+' => change? owners fuel (mode ||| bits) rest
    | '-' => change? owners fuel (mode &&& (all - bits)) rest
    | '=' => change? owners fuel ((mode &&& (all - owners)) ||| bits) rest
    | _ => none

def changed? (others mode : Nat) (words : String) : Option Nat :=
  (Text.splitAt ',' words.toList).foldlM (fun mode part =>
    let owners := part.takeWhile fun c => (owned c).isSome
    let change := part.drop owners.length
    if change.isEmpty then none
    else
      change? (if owners.isEmpty then others else join (owners.filterMap owned))
        (change.length + 1) mode change) mode

def toOctal (n : Nat) : String :=
  let digits := Nat.toDigits 8 n
  String.ofList (List.replicate (4 - digits.length) '0' ++ digits)

def toWords (mode : Nat) : String :=
  let letters (owners : Char) : String :=
    String.ofList ("rwx".toList.filter fun c =>
      mode &&& (owned owners).getD 0 &&& (kind c).getD 0 != 0)
  let part (owners : Char) : String := s!"{owners}={letters owners}"
  ",".intercalate ("ugo".toList.map part)

end FixGrader.Shell.Permission
