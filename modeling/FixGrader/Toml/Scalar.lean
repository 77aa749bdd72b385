import FixGrader.Instant
import FixGrader.Json.Value

namespace FixGrader.Toml

abbrev Reading := StateT (List Char) Option

/-- Makes every line end a line feed. A carriage return that stands alone stays, and no part of
TOML takes it. -/
def unifyLines : List Char → List Char
  | '\r' :: '\n' :: rest => '\n' :: unifyLines rest
  | c :: rest => c :: unifyLines rest
  | [] => []

def isText (c : Char) : Bool := c == '\t' || (0x20 ≤ c.toNat && c.toNat != 0x7F)

def isSpace (c : Char) : Bool := c == ' ' || c == '\t'

namespace Reading

def skip (p : Char → Bool) : Reading Unit := modify (·.dropWhile p)

def space : Reading Unit := skip isSpace

def peek? : Reading (Option Char) := do return (← get).head?

def next : Reading Char := do
  match (← get) with
  | [] => failure
  | c :: cs => set cs; return c

def accept (s : String) : Reading Bool := do
  let rest ← get
  if s.toList.isPrefixOf rest then
    set (rest.drop s.length)
    return true
  else return false

def acceptAny : List String → Reading Bool
  | [] => return false
  | s :: ss => do
    if ← accept s then return true else acceptAny ss

def expect (s : String) : Reading Unit := do
  if ← accept s then return () else failure

def run (p : Char → Bool) : Reading (List Char) := do
  let (taken, rest) := (← get).span p
  set rest
  return taken

def attempt {α : Type} (r : Reading α) : Reading (Option α) := fun s =>
  match r s with
  | some (a, rest) => some (some a, rest)
  | none => some (none, s)

end Reading

open Reading

def comment : Reading Unit := do
  if ← accept "#" then skip isText

def atLineEnd : Reading Bool := do
  match ← peek? with
  | none | some '\n' => return true
  | some _ => return false

def digitOf? (base : Nat) (c : Char) : Option Nat :=
  let d :=
    if c.isDigit then c.toNat - '0'.toNat
    else if 'a' ≤ c && c ≤ 'f' then c.toNat - 'a'.toNat + 10
    else if 'A' ≤ c && c ≤ 'F' then c.toNat - 'A'.toNat + 10
    else base
  if d < base then some d else none

def valueOf (base : Nat) (digits : List Char) : Nat :=
  digits.foldl (fun n c => n * base + (digitOf? base c).getD 0) 0

def fixedDigits (base : Nat) : Nat → Reading (List Char)
  | 0 => return []
  | n + 1 => do
    let c ← next
    if (digitOf? base c).isNone then failure
    return c :: (← fixedDigits base n)

def escaped : Reading Char := do
  match ← next with
  | 'b' => return '\x08'
  | 't' => return '\t'
  | 'n' => return '\n'
  | 'f' => return '\x0c'
  | 'r' => return '\r'
  | '"' => return '"'
  | '\\' => return '\\'
  | 'u' => scalar 4
  | 'U' => scalar 8
  | _ => failure
where
  scalar (n : Nat) : Reading Char := do
    let code := valueOf 16 (← fixedDigits 16 n)
    if code.isValidChar then return Char.ofNat code else failure

def quoted (fuel : Nat) : Reading (List Char) :=
  match fuel with
  | 0 => failure
  | fuel + 1 => do
    match ← next with
    | '"' => return []
    | '\\' => return (← escaped) :: (← quoted fuel)
    | c => if isText c then return c :: (← quoted fuel) else failure

/-- The rest of a string in single quotes, which has no escapes. -/
def literal : Reading (List Char) := do
  let text ← run fun c => isText c && c != '\''
  expect "'"
  return text

/-- The rest of a string that ends at three quotes. Two more may stand before those. -/
def longString (quote : Char) (escapes : Bool) (fuel : Nat) : Reading (List Char) :=
  match fuel with
  | 0 => failure
  | fuel + 1 => do
    let quotes := ((← get).takeWhile (· == quote)).length
    if 3 ≤ quotes then
      let kept := min (quotes - 3) 2
      modify (·.drop (3 + kept))
      return List.replicate kept quote
    else
      let c ← next
      if c == '\\' && escapes then
        let rest := (← get).dropWhile isSpace
        if rest.head? == some '\n' then
          set (rest.dropWhile fun c => isSpace c || c == '\n')
          longString quote escapes fuel
        else return (← escaped) :: (← longString quote escapes fuel)
      else if isText c || c == '\n' then return c :: (← longString quote escapes fuel)
      else failure

def text : Reading (List Char) := do
  let fuel := (← get).length
  if ← accept "\"\"\"" then
    let _ ← accept "\n"
    longString '"' true fuel
  else if ← accept "'''" then
    let _ ← accept "\n"
    longString '\'' false fuel
  else if ← accept "\"" then quoted fuel
  else do
    expect "'"
    literal

def digits (base : Nat) (fuel : Nat) : Reading (List Char) :=
  match fuel with
  | 0 => failure
  | fuel + 1 => do
    let some c ← peek? | failure
    if (digitOf? base c).isNone then failure
    let part ← run fun c => (digitOf? base c).isSome
    match ← get with
    | '_' :: d :: _ =>
      if (digitOf? base d).isSome then
        let _ ← next
        return part ++ (← digits base fuel)
      else return part
    | _ => return part

def integerOf? (minus : Bool) (n : Nat) : Option Json :=
  if minus then if n ≤ 0x8000000000000000 then some (.int (-n)) else none
  else if n < 0x8000000000000000 then some (.nat n) else none

def sign : Reading (List Char) := do
  if ← accept "-" then return ['-'] else if ← accept "+" then return ['+'] else return []

def wholeDigits : Reading (List Char) := do
  if ← accept "0" then return ['0'] else digits 10 ((← get).length + 1)

def decimals : Reading (List Char) := do
  let fraction ← if ← accept "." then
      pure ('.' :: (← digits 10 ((← get).length + 1)))
    else pure []
  let exponent ← if ← acceptAny ["e", "E"] then
      pure ('e' :: (← sign) ++ (← digits 10 ((← get).length + 1)))
    else pure []
  return fraction ++ exponent

def exponentOf : List Char → Int
  | '-' :: digits => -(valueOf 10 digits : Nat)
  | '+' :: digits => valueOf 10 digits
  | digits => valueOf 10 digits

/-- The least number that is nearer to infinity than to any floating-point number of 64 bits. -/
def unbounded : Nat := (Nat.pow 2 54 - 1) * Nat.pow 2 970

/-- The number with the digits `whole` before the point and `part` behind it, which `decimals`
gave, is at least `unbounded`. Only numbers of 309 digits are worth comparing. -/
def overflows (whole part : List Char) : Bool :=
  let fraction := (part.takeWhile (· != 'e')).drop 1
  let exponent := exponentOf ((part.dropWhile (· != 'e')).drop 1) - fraction.length
  let digits := (whole ++ fraction).dropWhile (· == '0')
  let n := valueOf 10 digits
  let length := digits.length + exponent
  if n == 0 || length < 309 then false
  else if 309 < length then true
  else if exponent < 0 then unbounded * Nat.pow 10 (-exponent).toNat ≤ n
  else unbounded ≤ n * Nat.pow 10 exponent.toNat

/-- A number with a sign or without, of which none may be too large for a floating-point number. -/
def number : Reading Json := do
  for (mark, base) in [("0x", 16), ("0o", 8), ("0b", 2)] do
    if ← accept mark then
      return ← integerOf? false (valueOf base (← digits base ((← get).length + 1)))
  let sign ← sign
  if ← acceptAny ["inf", "nan"] then return .number (.decimal sign)
  let whole ← wholeDigits
  let part := (← attempt decimals).getD []
  if part.isEmpty then integerOf? (sign == ['-']) (valueOf 10 whole)
  else if sign != ['-'] && overflows whole part then failure
  else return .number (.decimal (sign ++ whole ++ part))

def bounded (digits least most : Nat) : Reading Nat := do
  let n := valueOf 10 (← fixedDigits 10 digits)
  if least ≤ n && n ≤ most then return n else failure

def clock : Reading Unit := do
  let _ ← bounded 2 0 23
  expect ":"
  let _ ← bounded 2 0 59
  expect ":"
  let _ ← bounded 2 0 60
  if ← accept "." then
    let c ← next
    if !c.isDigit then failure
    skip Char.isDigit

def zone : Reading Unit := do
  if ← acceptAny ["Z", "z"] then return ()
  if (← sign).isEmpty then failure
  let _ ← bounded 2 0 23
  expect ":"
  let _ ← bounded 2 0 59

def date : Reading Unit := do
  let year ← bounded 4 0 9999
  expect "-"
  let month ← bounded 2 1 12
  expect "-"
  let day ← bounded 2 1 31
  if !(Date.isValid ⟨year, month, day⟩) then failure
  let time ← attempt do
    if !(← acceptAny ["T", "t", " "]) then failure
    clock
  if time.isSome then
    let _ ← attempt zone

/-- Dates and times carry no value here: they read as a table without known keys. -/
def moment : Reading Json := do
  if (← attempt date).isNone then clock
  return .obj [("moment", .null)]

end FixGrader.Toml
