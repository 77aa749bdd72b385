import FixGrader.Shell.Format
import FixGrader.Shell.Session

namespace FixGrader.Shell.Condition

inductive Fault where
  | operator (word : String)
  | number (word : String)
  | lacksOperand (operator : String)
  | noClosing
  deriving DecidableEq, Repr

def Fault.message : Fault → String
  | operator word => word ++ ": unexpected operator"
  | number word => "Illegal number: " ++ word
  | lacksOperand op => op ++ ": argument expected"
  | noClosing => "closing paren expected"

def unaryNames : List String :=
  ["-r", "-w", "-x", "-e", "-f", "-d", "-c", "-b", "-p", "-u", "-g", "-k", "-s", "-t", "-z", "-n",
   "-h", "-O", "-G", "-L", "-S"]

def binaryNames : List String :=
  ["=", "!=", "<", ">", "-eq", "-ne", "-ge", "-gt", "-le", "-lt", "-nt", "-ot", "-ef"]

inductive Token where
  | unary
  | binary
  | negation
  | both
  | either
  | opening
  | closing
  | operand
  | nothing
  deriving DecidableEq, Repr

def isOperand (rest : List String) : Bool :=
  match rest with
  | [] => true
  | [_] => false
  | w :: _ => binaryNames.contains w

def token : List String → Token
  | [] => .nothing
  | w :: rest =>
    if w == "!" then .negation
    else if w == "-a" then .both
    else if w == "-o" then .either
    else if w == "(" && !rest.isEmpty then .opening
    else if w == ")" then .closing
    else if binaryNames.contains w then .binary
    else if unaryNames.contains w && !isOperand rest then .unary
    else .operand

def integer (s : String) : Except Fault Int :=
  let (negative, digits) := Format.readSign (s.toList.dropWhile Format.isSpace)
  let number := digits.takeWhile Char.isDigit
  let n := Arithmetic.ofDigits 10 number
  let size := if negative then -n else n
  if number.isEmpty || !(digits.drop number.length).all Format.isSpace ||
      size != Arithmetic.wrap size then .error (.number s)
  else .ok size

def isDevice (names : List String) : Bool := names.head? == some "dev"

def unary (files : FileTree) (op arg : String) : Except Fault Bool := do
  let names := (files.resolve arg).toOption
  let node := names.bind files.node?
  let isDevice := names.any isDevice && node != some .directory
  match op with
  | "-z" => return arg.isEmpty
  | "-n" => return !arg.isEmpty
  | "-e" | "-r" | "-w" | "-O" | "-G" => return node.isSome
  | "-x" => return node == some .directory || files.isExecutable arg
  | "-d" => return node == some .directory
  | "-c" => return isDevice
  | "-f" => return node.isSome && node != some .directory && !isDevice
  | "-s" =>
    return match node with
      | some (.file bytes _) => !bytes.isEmpty
      | found => found.isSome
  | "-t" =>
    discard (integer arg)
    return false
  | _ => return false

def binary (files : FileTree) (a op b : String) : Except Fault Bool := do
  let compare (holds : Int → Int → Bool) : Except Fault Bool := do
    return holds (← integer a) (← integer b)
  match op with
  | "=" => return a == b
  | "!=" => return a != b
  | "<" => return a < b
  | ">" => return b < a
  | "-eq" => compare fun m n => m == n
  | "-ne" => compare fun m n => m != n
  | "-lt" => compare fun m n => m < n
  | "-le" => compare fun m n => m ≤ n
  | "-gt" => compare fun m n => n < m
  | "-ge" => compare fun m n => n ≤ m
  | "-ef" => return files.exists? a && (files.resolve a).toOption == (files.resolve b).toOption
  | _ => return false

abbrev Reading := Except Fault (Bool × List String)

mutual

def readEither (files : FileTree) : (fuel : Nat) → List String → Reading
  | 0, words => .ok (false, words)
  | fuel + 1, words => do
    let (a, words) ← readBoth files fuel words
    if token (words.drop 1) = .either then
      let (b, words) ← readEither files fuel (words.drop 2)
      return (a || b, words)
    else return (a, words)

def readBoth (files : FileTree) : (fuel : Nat) → List String → Reading
  | 0, words => .ok (false, words)
  | fuel + 1, words => do
    let (a, words) ← readNegation files fuel words
    if token (words.drop 1) = .both then
      let (b, words) ← readBoth files fuel (words.drop 2)
      return (a && b, words)
    else return (a, words)

def readNegation (files : FileTree) : (fuel : Nat) → List String → Reading
  | 0, words => .ok (false, words)
  | fuel + 1, words => do
    if token words != .negation then readTest files fuel words
    else if words.length ≤ 1 then return (true, words)
    else
      let (a, words) ← readNegation files fuel (words.drop 1)
      return (!a, words)

def readTest (files : FileTree) : (fuel : Nat) → List String → Reading
  | 0, words => .ok (false, words)
  | fuel + 1, words =>
    match token words, words with
    | .nothing, _ => .ok (false, [])
    | .opening, _ :: inner =>
      if token inner = .closing then .ok (false, inner)
      else do
        let (a, rest) ← readEither files fuel inner
        if token (rest.drop 1) = .closing then return (a, rest.drop 1) else .error .noClosing
    | .unary, op :: arg :: rest => do return (← unary files op arg, arg :: rest)
    | _, word :: rest =>
      if token rest != .binary then .ok (!word.isEmpty, word :: rest)
      else
        match rest with
        | op :: other :: rest => do return (← binary files word op other, other :: rest)
        | _ => .error (.lacksOperand (rest.headD ""))
    | _, [] => .ok (false, [])

end

/-- Reads a condition that has to be all of the words. Every step takes a word or descends one
level. -/
def readAll (files : FileTree) (words : List String) : Except Fault Bool := do
  match ← readEither files (4 * words.length + 4) words with
  | (_, word :: _ :: _) => .error (.operator word)
  | (a, _) => return a

/-- Three words are a test by the one in the middle before anything else. A negation in front of
them is left out. -/
def evalThree (files : FileTree) (a b c : String) : Except Fault Bool :=
  if binaryNames.contains b then binary files a b c
  else if a == "(" && c == ")" then readAll files [b]
  else if a == "!" then readAll files [b, c]
  else readAll files [a, b, c]

/-- The value of a condition. Of negations in front of three and four words, one counts. -/
def eval (files : FileTree) : List String → Except Fault Bool
  | [] => .ok false
  | [a, b, c] =>
    let holds := evalThree files a b c
    if a == "!" && !binaryNames.contains b then holds.map not else holds
  | [a, b, c, d] =>
    if a == "(" && d == ")" then readAll files [b, c]
    else if a == "!" then (evalThree files b c d).map not
    else readAll files [a, b, c, d]
  | words => readAll files words

def Fault.told (words : List String) : Fault → String
  | operator word =>
    match words with
    | [_, last] => s!"missing argument after '{last}'"
    | [_, op, _] => s!"'{op}': binary operator expected"
    | _ => s!"extra argument '{word}'"
  | number word => s!"invalid integer '{word}'"
  | lacksOperand op => s!"missing argument after '{op}'"
  | noClosing => "')' expected"

def program (isBracket : Bool) (args : List String) : Act Nat := do
  if isBracket && args.getLast? != some "]" then
    Act.tell "missing ']'"
    return 2
  let words := if isBracket then args.dropLast else args
  match eval (← get).files words with
  | .ok holds => return if holds then 0 else 1
  | .error fault =>
    Act.tell (fault.told words)
    return 2

def test (name : String) (args : List String) : Act Nat := do
  if name == "[" && args.getLast? != some "]" then
    Act.report "[: missing ]"
    return 2
  match eval (← get).files (if name == "[" then args.dropLast else args) with
  | .ok holds => return if holds then 0 else 1
  | .error fault =>
    Act.report s!"{name}: {fault.message}"
    return 2

end FixGrader.Shell.Condition
