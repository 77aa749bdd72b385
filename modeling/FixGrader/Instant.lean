import FixGrader.Json.Reader
import FixGrader.Text.Blank

namespace FixGrader

structure Date where
  year : Int
  month : Nat
  day : Nat
  deriving DecidableEq, Repr, Inhabited

namespace Date

def isLeap (year : Int) : Bool := year % 4 == 0 && (year % 100 != 0 || year % 400 == 0)

def daysIn (year : Int) (month : Nat) : Nat :=
  if month = 2 then if isLeap year then 29 else 28
  else if month = 4 ∨ month = 6 ∨ month = 9 ∨ month = 11 then 30
  else 31

def minYear : Int := -262143

def maxYear : Int := 262142

def isValid (d : Date) : Bool :=
  minYear ≤ d.year && d.year ≤ maxYear && 1 ≤ d.month && d.month ≤ 12 && 1 ≤ d.day &&
    d.day ≤ daysIn d.year d.month

def next (d : Date) : Date :=
  if d.day < daysIn d.year d.month then { d with day := d.day + 1 }
  else if d.month < 12 then ⟨d.year, d.month + 1, 1⟩
  else ⟨d.year + 1, 1, 1⟩

def previous (d : Date) : Date :=
  if 1 < d.day then { d with day := d.day - 1 }
  else if 1 < d.month then ⟨d.year, d.month - 1, daysIn d.year (d.month - 1)⟩
  else ⟨d.year - 1, 12, 31⟩

end Date

/-- `minute` counts from midnight. A leap second is second 60. -/
structure Instant where
  date : Date
  minute : Nat
  second : Nat
  nano : Nat
  deriving DecidableEq, Repr, Inhabited

namespace Instant

def earlier (t : Instant) (minutes : Int) : Option Instant :=
  let m := (t.minute : Int) - minutes
  let moved : Instant :=
    if m < 0 then { t with date := t.date.previous, minute := (m + 1440).toNat }
    else if 1440 ≤ m then { t with date := t.date.next, minute := (m - 1440).toNat }
    else { t with minute := m.toNat }
  if moved.date.isValid then some moved else none

def padded (n value : Nat) : List Char :=
  match n with
  | 0 => []
  | n + 1 => padded n (value / 10) ++ [Char.ofNat ('0'.toNat + value % 10)]

/-- At least four digits, with a sign outside the years 0 to 9999. -/
def writeYear (year : Int) : List Char :=
  let digits := if year.natAbs < 10000 then padded 4 year.natAbs else Nat.toDigits 10 year.natAbs
  if year < 0 then '-' :: digits else if 9999 < year then '+' :: digits else digits

def writeFraction (nano : Nat) : List Char :=
  if nano = 0 then []
  else if nano % 1000000 = 0 then '.' :: padded 3 (nano / 1000000)
  else if nano % 1000 = 0 then '.' :: padded 6 (nano / 1000)
  else '.' :: padded 9 nano

def chars (t : Instant) : List Char :=
  writeYear t.date.year ++ '-' :: padded 2 t.date.month ++ '-' :: padded 2 t.date.day ++
    'T' :: padded 2 (t.minute / 60) ++ ':' :: padded 2 (t.minute % 60) ++
    ':' :: padded 2 t.second ++ writeFraction t.nano ++ ['Z']

def toString (t : Instant) : String := String.ofList t.chars

def readField (most : Nat) (s : List Char) : Option (Nat × List Char) :=
  let s := Text.trimLeft s
  let digits := (s.take most).takeWhile Char.isDigit
  if digits.isEmpty then none else some (Json.digitsValue 0 digits, s.drop digits.length)

def readYear (s : List Char) : Option (Int × List Char) :=
  match Text.trimLeft s with
  | '-' :: rest => readSigned (-1) rest
  | '+' :: rest => readSigned 1 rest
  | s => (readField 4 s).map fun r => (r.1, r.2)
where
  readSigned (sign : Int) (s : List Char) : Option (Int × List Char) :=
    let (digits, rest) := s.span Char.isDigit
    if digits.isEmpty then none else some (sign * Json.digitsValue 0 digits, rest)

def readMark (c : Char) (s : List Char) : Option (List Char) :=
  match Text.trimLeft s with
  | d :: rest => if d == c then some rest else none
  | [] => none

/-- A fraction of a second in nanoseconds; digits after the ninth are dropped. -/
def readNano (s : List Char) : Option (Nat × List Char) :=
  match s with
  | '.' :: rest =>
    let digits := (rest.take 9).takeWhile Char.isDigit
    if digits.isEmpty then none
    else
      let nano := Json.digitsValue 0 digits * Nat.pow 10 (9 - digits.length)
      some (nano, (rest.drop digits.length).dropWhile Char.isDigit)
  | _ => some (0, s)

/-- An offset in minutes: `Z`, `UTC` in any letter case, or a sign and four digits with colons or
blanks between hours and minutes. -/
def readOffset (s : List Char) : Option (Int × List Char) :=
  match s with
  | 'Z' :: rest => some (0, rest)
  | 'z' :: rest => some (0, rest)
  | '+' :: rest => readDigits 1 rest
  | '-' :: rest => readDigits (-1) rest
  | '\u2212' :: rest => readDigits (-1) rest
  | _ => if (s.take 3).map Char.toUpper == ['U', 'T', 'C'] then some (0, s.drop 3) else none
where
  readDigits (sign : Int) (s : List Char) : Option (Int × List Char) :=
    let minutes := (s.drop 2).dropWhile fun c => c == ':' || Text.isBlank c
    let both := s.take 2 ++ minutes.take 2
    if both.length = 4 && both.all Char.isDigit then
      let h := Json.digitsValue 0 (s.take 2)
      let m := Json.digitsValue 0 (minutes.take 2)
      if h < 24 && m < 60 then some (sign * (h * 60 + m : Nat), minutes.drop 2) else none
    else none

def readDate (s : List Char) : Option (Date × List Char) := do
  let (year, s) ← readYear s
  let s ← readMark '-' s
  let (month, s) ← readField 2 s
  let s ← readMark '-' s
  let (day, s) ← readField 2 s
  let date : Date := ⟨year, month, day⟩
  if date.isValid then some (date, s) else none

/-- Reads the time of day `t` that stands for `date` in its own offset. -/
def readTime (date : Date) (s : List Char) : Option (Instant × List Char) := do
  let (hour, s) ← readField 2 s
  let s ← readMark ':' s
  let (minute, s) ← readField 2 s
  let s ← readMark ':' s
  let (second, s) ← readField 2 s
  let (nano, s) ← readNano s
  if hour < 24 && minute < 60 && second ≤ 60 then
    some (⟨date, hour * 60 + minute, second, nano⟩, s)
  else none

def ofChars? (s : List Char) : Option Instant := do
  let (date, s) ← readDate s
  let s ← match s with
    | 'T' :: s => some s
    | 't' :: s => some s
    | ' ' :: s => some s
    | _ => none
  let (t, s) ← readTime date s
  let (offset, s) ← readOffset (Text.trimLeft s)
  if (Text.trimLeft s).isEmpty then t.earlier offset else none

def parse? (s : String) : Option Instant := ofChars? s.toList

end Instant

end FixGrader
