import FixGrader.Shell.FileProgram
import FixGrader.Shell.LinePattern
import FixGrader.Shell.Program

namespace FixGrader.Shell.NameProgram

/-- The last name of a path, without the end `suffix` unless that is all of it. -/
def lastName (path suffix : String) : String :=
  if path.isEmpty then ""
  else
    let path := FileProgram.bare path
    if path.toList.all (· == '/') then "/"
    else
      let name := (FileTree.names path).getLastD ""
      if name.endsWith suffix && name != suffix then (name.dropEnd suffix.length).toString
      else name

def baseName (args : List String) : Act Nat := do
  let say (suffix : String) (paths : List String) : Act Nat := do
    for path in paths do
      Act.print (lastName path suffix ++ "\n")
    return 0
  match args with
  | [] => Argument.misuse "missing operand"
  | "-a" :: paths => say "" paths
  | "-s" :: suffix :: paths => say suffix paths
  | [path] => say "" [path]
  | [path, suffix] => say suffix [path]
  | _ :: _ :: extra :: _ => Argument.misuse s!"extra operand '{extra}'"

def directoryOf (path : String) : String :=
  let parts := (FileTree.names (FileProgram.bare path)).dropLast
  let dir := FileProgram.bare ("/".intercalate parts)
  if path.startsWith "/" && (dir.isEmpty || dir.toList.all (· == '/')) then "/"
  else if dir.isEmpty then "."
  else dir

def directoryName (args : List String) : Act Nat := do
  if args.isEmpty then Argument.misuse "missing operand"
  else
    for path in args do
      Act.print (directoryOf path ++ "\n")
    return 0

def which (args : List String) : Act Nat := do
  let s ← get
  let names := args.filter (!·.startsWith "-")
  let found := names.filterMap fun name =>
    (Image.locate s.files ((s.param? "PATH").getD "") name).toOption.map (·.1)
  for path in found do
    Act.print (path ++ "\n")
  return if !names.isEmpty && found.length == names.length then 0 else 1

def identity (args : List String) : Act Nat := do
  let letters := (args.filter (·.startsWith "-")).flatMap String.toList
  let one := ['u', 'g', 'G'].any letters.contains
  Act.print <|
    if one then if letters.contains 'n' then "root\n" else "0\n"
    else "uid=0(root) gid=0(root) groups=0(root)\n"
  return 0

def system (args : List String) : Act Nat := do
  Act.print <| match args with
    | ["-m"] | ["-p"] | ["-i"] => "x86_64\n"
    | ["-o"] => "GNU/Linux\n"
    | _ => "Linux\n"
  return 0

/-- Why an expression has no value. -/
inductive Fault where
  | missingOperand
  | missing (word : String)
  | unexpected (word : String)
  | notInteger
  | divisionByZero
  deriving DecidableEq

def Fault.message : Fault → String
  | missingOperand => "missing operand"
  | missing word => s!"syntax error: missing argument after '{word}'"
  | unexpected word => s!"syntax error: unexpected argument '{word}'"
  | notInteger => "non-integer argument"
  | divisionByZero => "division by zero"

def isNothing (s : String) : Bool := s.isEmpty || s.toInt? == some 0

def rank? (word : String) : Option Nat :=
  if word == "|" then some 1
  else if word == "&" then some 2
  else if ["<", "<=", "=", "==", "!=", ">=", ">"].contains word then some 3
  else if ["+", "-"].contains word then some 4
  else if ["*", "/", "%"].contains word then some 5
  else if word == ":" then some 6
  else none

def sum (word : String) (a b : Int) : Except Fault Int :=
  match word with
  | "+" => .ok (a + b)
  | "-" => .ok (a - b)
  | "*" => .ok (a * b)
  | word =>
    if b = 0 then .error .divisionByZero
    else .ok (if word == "/" then a.tdiv b else a.tmod b)

def compare (word a b : String) : Bool :=
  let (less, equal) : Bool × Bool :=
    match a.toInt?, b.toInt? with
    | some m, some n => (m < n, m == n)
    | _, _ => (a < b, a == b)
  match word with
  | "<" => less
  | "<=" => less || equal
  | "=" | "==" => equal
  | "!=" => !equal
  | ">=" => !less
  | _ => !less && !equal

def matchSize (text pattern : String) : Nat :=
  match LinePattern.read false false pattern with
  | none => 0
  | some p => ((p.advance [Place.start text.toList]).getLast?.map (·.offset)).getD 0

def apply (word a b : String) : Except Fault String :=
  match word with
  | "|" => .ok (if isNothing a then if isNothing b then "0" else b else a)
  | "&" => .ok (if isNothing a || isNothing b then "0" else a)
  | ":" => .ok (toString (matchSize a b))
  | word =>
    if rank? word == some 3 then .ok (if compare word a b then "1" else "0")
    else
      match a.toInt?, b.toInt? with
      | some m, some n => (sum word m n).map toString
      | _, _ => .error .notInteger

mutual

/-- The value of operands joined by operators of `rank` and above; `last` is the word before. Every
step takes a word or goes one rank up. -/
def evalFrom : (fuel : Nat) → (rank : Nat) → (last : String) → List String →
    Except Fault (String × List String)
  | 0, _, last, _ => .error (.missing last)
  | fuel + 1, rank, last, words => do
    let (a, rest) ← evalOperand fuel last words
    evalRest fuel rank a rest

def evalRest : (fuel : Nat) → (rank : Nat) → String → List String →
    Except Fault (String × List String)
  | 0, _, a, rest => .ok (a, rest)
  | fuel + 1, rank, a, rest => do
    match rest with
    | op :: rest =>
      match rank? op with
      | none => return (a, op :: rest)
      | some r =>
        if r < rank then return (a, op :: rest)
        let (b, rest) ← evalFrom fuel (r + 1) op rest
        evalRest fuel rank (← apply op a b) rest
    | [] => return (a, [])

def evalOperand : (fuel : Nat) → (last : String) → List String →
    Except Fault (String × List String)
  | 0, last, _ => .error (.missing last)
  | _ + 1, last, [] => .error (.missing last)
  | fuel + 1, _, word :: rest => do
    match word, rest with
    | "(", rest =>
      let (a, rest) ← evalFrom fuel 1 "(" rest
      match rest with
      | ")" :: rest => return (a, rest)
      | other :: _ => .error (.unexpected other)
      | [] => .error (.missing a)
    | "length", text :: rest => return (toString text.length, rest)
    | "index", text :: chars :: rest =>
      let n := (text.toList.findIdx? chars.toList.contains).map (· + 1)
      return (toString (n.getD 0), rest)
    | "substr", text :: first :: size :: rest =>
      let part := match first.toNat?, size.toNat? with
        | some (n + 1), some m => (text.toList.drop n).take m
        | _, _ => []
      return (String.ofList part, rest)
    | "match", text :: pattern :: rest => return (toString (matchSize text pattern), rest)
    | word, rest => return (word, rest)

end

def eval (words : List String) : Except Fault String := do
  if words.isEmpty then .error .missingOperand
  else
    match ← evalFrom (3 * words.length + 3) 1 "" words with
    | (value, []) => return value
    | (_, word :: _) => .error (.unexpected word)

def expression (args : List String) : Act Nat := do
  match eval args with
  | .error fault =>
    Act.tell fault.message
    if fault = .missingOperand then Argument.hint
    return 2
  | .ok value =>
    Act.print (value ++ "\n")
    return if isNothing value then 1 else 0

end FixGrader.Shell.NameProgram
