import FixGrader.Shell.Expansion
import FixGrader.Shell.Permission

namespace FixGrader.Shell.Variable

def number (name : String) (default : Nat) : List String → Act Nat
  | [] => return default
  | arg :: _ =>
    match arg.toNat? with
    | some n => return n
    | none => Act.refuse s!"{name}: Illegal number: {arg}"

def assignment (s : String) : String × Option String :=
  let name := s.toList.takeWhile (· != '=')
  match s.toList.drop name.length with
  | _ :: value => (String.ofList name, some (String.ofList value))
  | [] => (s, none)

def quote (s : String) : String :=
  let isQuote (c : Char) : Bool := c == '\''
  let part (w : List Char) : String :=
    if w.any isQuote then "\"" ++ String.ofList w ++ "\"" else "'" ++ String.ofList w ++ "'"
  if s.isEmpty then "''"
  else String.join ((s.toList.splitBy fun a b => isQuote a == isQuote b).map part)

def declare (command : String) (isMarked : Binding → Bool) (mark : Binding → Binding)
    (args : List String) : Act Nat := do
  let refuse (message : String) : Act Unit := Act.refuse (command ++ ": " ++ message)
  if args.isEmpty || args.head? == some "-p" then
    let marked := (← get).bindings.filter isMarked
    for b in marked.mergeSort fun a b => a.name ≤ b.name do
      let value := (b.value.map fun v => "=" ++ quote v).getD ""
      Act.print s!"{command} {b.name}{value}\n"
  else
    for arg in args do
      let (name, value) := assignment arg
      if !Word.isName name.toList then refuse s!"{name}: bad variable name"
      if let some v := value then Expansion.assign refuse name v
      modify (·.mark name mark)
  return 0

def share : List String → Act Nat :=
  declare "export" (·.exported) fun b => { b with exported := true }

def freeze : List String → Act Nat :=
  declare "readonly" (·.isConstant) fun b => { b with isConstant := true }

def hide (args : List String) : Act Nat := do
  match (← get).hidden with
  | none => Act.refuse "local: not in a function"
  | some before =>
    let mut before := before
    for arg in args do
      let (name, value) := assignment arg
      if !Word.isName name.toList then Act.refuse s!"{name}: bad variable name"
      before := (name, (← get).binding? name) :: before
      if let some v := value then
        Expansion.assign (fun m => Act.refuse ("local: " ++ m)) name v
    modify ({ · with hidden := some before })
    return 0

def forget (args : List String) : Act Nat := do
  let (functions, names) := match args with
    | "-f" :: names => (true, names)
    | "-v" :: names => (false, names)
    | names => (false, names)
  for name in names do
    if functions then modify fun s => { s with functions := s.functions.filter (·.1 != name) }
    else
      if let '-' :: c :: _ := name.toList then Act.refuse s!"unset: Illegal option -{c}"
      if !Word.isName name.toList then Act.refuse s!"unset: {name}: bad variable name"
      Expansion.requireVariable (fun m => Act.refuse ("unset: " ++ m)) name
      modify (·.unset name)
  return 0

def optionNames : List (Char × String) :=
  [('e', "errexit"), ('f', "noglob"), ('I', "ignoreeof"), ('i', "interactive"), ('m', "monitor"),
   ('n', "noexec"), ('s', "stdin"), ('x', "xtrace"), ('v', "verbose"), ('V', "vi"),
   ('E', "emacs"), ('C', "noclobber"), ('a', "allexport"), ('b', "notify"), ('u', "nounset"),
   ('p', "privileged")]

def switch (on : Bool) (letters : List Char) (s : Session) : Session :=
  { s with
    options :=
      if on then (letters ++ s.options).eraseDups else s.options.filter (!letters.contains ·) }

def listOptions (asTable : Bool) : Act Unit := do
  let on := (← get).options
  if asTable then Act.print "Current option settings\n"
  for (letter, name) in optionNames ++ [('\x01', "nolog"), ('\x02', "debug")] do
    let isOn := on.contains letter
    let padding := "".pushn ' ' (16 - name.length)
    let state := if isOn then "on" else "off"
    let sign := if isOn then "-o " else "+o "
    Act.print (if asTable then name ++ padding ++ state ++ "\n" else "set " ++ sign ++ name ++ "\n")

/-- Switches options as the arguments of `set` say. What is left are parameters, if there are
any. -/
def readOptions : List String → Act (Option (List String))
  | [] => return none
  | arg :: rest =>
    match arg.toList with
    | ['-', '-'] => return some rest
    | ['-'] => return if rest.isEmpty then none else some rest
    | sign :: letters => do
      if letters.isEmpty || (sign != '-' && sign != '+') then return some (arg :: rest)
      let plain := letters.filter (· != 'o')
      for c in plain do
        if !optionNames.any (·.1 == c) then Act.refuse s!"set: Illegal option {sign}{c}"
      modify (switch (sign == '-') plain)
      if plain.length == letters.length then readOptions rest
      else
        match rest with
        | [] =>
          listOptions (sign == '-')
          return none
        | name :: rest =>
          match optionNames.find? (·.2 == name) with
          | some (letter, _) => modify (switch (sign == '-') [letter])
          | none => Act.refuse s!"set: Illegal option {sign}o {name}"
          readOptions rest
    | [] => return some (arg :: rest)

def set (args : List String) : Act Nat := do
  if let some params ← readOptions args then modify fun s => { s with params := params }
  return 0

def shift (args : List String) : Act Nat := do
  let n ← number "shift" 1 args
  let s ← get
  if s.params.length < n then Act.refuse "shift: can't shift that many"
  modify fun s => { s with params := s.params.drop n }
  return 0

abbrev Mark := Char × Bool

/-- Undoes the backslashes of a line; one at its end asks for the next line. -/
def unescape : List Char → List Mark × Bool
  | [] => ([], false)
  | ['\\'] => ([], true)
  | '\\' :: c :: rest =>
    let (marks, more) := unescape rest
    ((c, false) :: marks, more)
  | c :: rest =>
    let (marks, more) := unescape rest
    ((c, true) :: marks, more)

/-- Takes a line, which may go on in the next ones, and tells whether its end was seen. -/
def takeMarks (isRaw : Bool) : (fuel : Nat) → Act (List Mark × Bool)
  | 0 => return ([], false)
  | fuel + 1 => do
    let (line, complete) ← Act.takeLine
    if isRaw then return (line.map (·, true), complete)
    match unescape line, complete with
    | (marks, true), true =>
      let (more, complete) ← takeMarks isRaw fuel
      return (marks ++ more, complete)
    | (marks, _), complete => return (marks, complete)

def distribute (separators : List Char) (names : List String) (line : List Mark) :
    List (String × String) :=
  let isGap (m : Mark) : Bool := m.2 && separators.contains m.1
  let isBlank (m : Mark) : Bool := isGap m && " \t\n".contains m.1
  let text (marks : List Mark) : String := String.ofList (marks.map (·.1))
  match names with
  | [] => []
  | [name] =>
    let line := (line.reverse.dropWhile isBlank).reverse
    let field := line.takeWhile (!isGap ·)
    let isWhole := match (line.drop field.length).dropWhile isBlank with
      | [] => true
      | [m] => isGap m
      | _ => false
    [(name, text (if isWhole then field else line))]
  | name :: names =>
    let field := line.takeWhile (!isGap ·)
    let rest := (line.drop field.length).dropWhile isBlank
    let rest := if rest.head?.any isGap then (rest.drop 1).dropWhile isBlank else rest
    (name, text field) :: distribute separators names rest

def readLine (args : List String) : Act Nat := do
  let (options, names) := args.span (·.startsWith "-")
  if let some bad := (options.flatMap fun o => o.toList.drop 1).find? fun c => !"rp".contains c then
    Act.report s!"read: Illegal option -{bad}"
    return 2
  let isPrompted := options.any (·.contains 'p')
  let names := if isPrompted then names.drop 1 else names
  if names.isEmpty then
    Act.report "read: arg count"
    return 2
  let s ← get
  let size := s.input.text.length
  let (line, complete) ← takeMarks (options.any (·.contains 'r')) (size + 1)
  let blanks := separators s
  let line := line.dropWhile fun m => m.2 && blanks.contains m.1 && " \t\n".contains m.1
  for (name, value) in distribute blanks names line do
    if !Word.isName name.toList then
      Act.report s!"read: {name}: bad variable name"
      return 2
    if (← get).isConstant name then
      Act.report s!"read: {name}: is read only"
      return 2
    Expansion.assign Act.refuse name value
  return if complete then 0 else 1

end FixGrader.Shell.Variable
