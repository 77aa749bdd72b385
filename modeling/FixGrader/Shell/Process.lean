import FixGrader.Shell.Batch
import FixGrader.Shell.Run

namespace FixGrader.Shell

namespace Image

structure Start where
  command : Bool := false
  options : List Char := []
  deriving Inhabited

def Start.readsInput (s : Start) : Bool := s.options.contains 's'

def Start.switch (s : Start) (on : Bool) (letters : List Char) : Start :=
  { command := s.command || letters.contains 'c'
    options := if on then s.options ++ letters else s.options.filter (!letters.contains ·) }

def readOptions (start : Start) : List String → Except String (Start × List String)
  | [] => .ok (start, [])
  | [arg] => readLast start arg
  | arg :: next :: rest =>
    match arg.toList with
    | ['-', '-'] | ['-'] => .ok (start, next :: rest)
    | sign :: letters =>
      if letters.isEmpty || (sign != '-' && sign != '+') then .ok (start, arg :: next :: rest)
      else
        match letters.find? (!isKnown ·), letters.contains 'o' with
        | some bad, _ => .error s!"Illegal option {sign}{bad}"
        | none, false => readOptions (start.switch (sign == '-') letters) (next :: rest)
        | none, true =>
          match Variable.optionNames.find? (·.2 == next) with
          | some (letter, _) => readOptions (start.switch (sign == '-') (letter :: letters)) rest
          | none => .error s!"Illegal option {sign}o {next}"
    | [] => .ok (start, arg :: next :: rest)
where
  isKnown (c : Char) : Bool :=
    c == 'c' || c == 'l' || c == 'o' || Variable.optionNames.any (·.1 == c)
  readLast (start : Start) (arg : String) : Except String (Start × List String) :=
    match arg.toList with
    | ['-', '-'] | ['-'] => .ok (start, [])
    | sign :: letters =>
      if letters.isEmpty || (sign != '-' && sign != '+') then .ok (start, [arg])
      else
        match letters.find? (!isKnown ·) with
        | some bad => .error s!"Illegal option {sign}{bad}"
        | none => .ok (start.switch (sign == '-') letters, [])
    | [] => .ok (start, [arg])

def session (s : Session) (name : String) : Session :=
  let s := { s with
    name := name
    params := []
    bindings := s.bindings.filter fun b => b.exported && b.name != "IFS"
    status := 0
    line := 0
    traps := []
    functions := []
    loops := 0
    calls := 0
    options := []
    isTested := false
    context := none
    optionPlace := none
    hidden := none
    latest := none
    id := s.id + 1 }
  let s := if (s.param? "PATH").isSome then s else s.assign "PATH" defaultSearch
  let s := ((s.assign "IFS" " \t\n").assign "OPTIND" "1").assign "PS4" "+ "
  let s := s.assign "PPID" (toString (s.id - 1))
  (s.assign "PWD" s.directory).share "PWD"

def shell (perform : Job → Act Unit) (args : List String) : Act Unit := do
  match readOptions {} args with
  | .error message => Act.refuse message
  | .ok (start, args) =>
    let s ← get
    let readsInput := start.readsInput || args.isEmpty
    let (text, name, params) ← match start.command, args with
      | true, [] => Act.refuse "-c requires an argument"
      | true, [text] => pure (text.toList, s.name, [])
      | true, text :: name :: params => pure (text.toList, name, params)
      | false, args =>
        if readsInput then pure (← Act.whole (← Act.takeInput), s.name, args)
        else
          let path := args.headD ""
          match s.files.readBytes path with
          | .ok bytes => pure (bytes.map Char.ofNat, path, args.drop 1)
          | .error .isDirectory => pure ([], path, args.drop 1)
          | .error _ => Act.refuse s!"cannot open {path}: No such file"
    modify fun s =>
      { s with
        name := name
        params := params
        options := start.options
        line := 1 }
    let ended ← Act.ending (Script.runText perform text)
    match ended with
    | none | some .exit | some .back | some (.leave ..) =>
      let s ← get
      match s.traps.lookup 0 with
      | none => return
      | some action =>
        set { s with traps := s.traps.filter (·.1 != 0) }
        match ← Act.ending (perform (.source action.toList)) with
        | none => Act.setStatus s.status
        | some .exit => return
        | some h => throw h
    | some h => throw h

/-- Runs a program in place of the one that was asked to run it; `report` tells why it cannot be
run. -/
def become (perform : Job → Act Unit) (report : String → String) (name : String)
    (args : List String) : Act Unit := do
  let s ← get
  let fail (cause : String) (status : Nat) : Act Unit := do
    Act.tell (report cause)
    Act.setStatus status
  match find s.files ((s.param? "PATH").getD "/bin:/usr/bin") true name args with
  | .ok image => perform (.image image)
  | .error .denied => fail "Permission denied" 126
  | .error _ => fail "No such file or directory" 127

def environment (perform : Job → Act Unit) : List String → Act Unit
  | [] => do Act.setStatus (← Utility.environment)
  | "-u" :: name :: rest => do
    modify (·.unset name)
    environment perform rest
  | arg :: rest => do
    if arg == "-i" || arg == "-" then
      modify fun s => { s with bindings := [] }
      environment perform rest
    else if arg == "--" then environment perform rest
    else
      match arg.toList, Variable.assignment arg with
      | '-' :: c :: _, _ =>
        discard <| Argument.badOption c
        Act.setStatus 125
      | _, (name, some value) =>
        modify fun s => (s.assign name value).share name
        environment perform rest
      | _, (name, none) => become perform (fun cause => s!"'{name}': {cause}") name rest

def withTimeLimit (perform : Job → Act Unit) (args : List String) : Act Unit := do
  let (kill, args) := if args.head? == some "-k" then (true, args.drop 2) else (false, args)
  let (signal, args) := match args with
    | "-s" :: name :: rest => (Signal.number? name, rest)
    | args => (some 15, args)
  let misuse (problem : String) : Act Unit := do
    discard <| Argument.misuse problem
    Act.setStatus 125
  match signal, args with
  | none, _ => misuse "invalid signal"
  | some signal, text :: name :: args =>
    match Utility.pauseMillis? text with
    | none => misuse s!"invalid time interval '{text}'"
    | some millis =>
      let s ← get
      let latest := s.clock + millis
      let report (cause : String) : String := s!"failed to run command '{name}': {cause}"
      let program := become perform report name args
      if millis = 0 || s.deadline ≤ latest then program
      else
        set { s with deadline := latest }
        let ended ← Act.ending (Act.process program)
        modify fun t => { t with deadline := s.deadline }
        match ended with
        | none => return
        | some .overdue | some .endless =>
          if s.isPiped && ended == some .endless then throw .endless
          modify fun t => { t with clock := latest }
          if signal = 9 && !kill then throw (.exhausted 9)
          Act.setStatus 124
        | some h => throw h
  | some _, _ => do
    Argument.hint
    Act.setStatus 125

def withPriority (perform : Job → Act Unit) (args : List String) : Act Unit :=
  let args := match args with
    | "-n" :: _ :: rest => rest
    | arg :: rest => if arg.startsWith "-" then rest else arg :: rest
    | [] => []
  match args with
  | [] => do
    Act.print "0\n"
    Act.setStatus 0
  | name :: args => become perform (fun cause => s!"'{name}': {cause}") name args

def detached (perform : Job → Act Unit) (ignoresHangup : Bool) (args : List String) :
    Act Unit := do
  match args with
  | [] =>
    discard <| Argument.misuse
      (if ignoresHangup then "missing operand" else "no command specified")
    Act.setStatus (if ignoresHangup then 125 else 1)
  | name :: args =>
    let report (cause : String) : String :=
      if ignoresHangup then s!"failed to run command '{name}': {cause}"
      else s!"failed to execute {name}: {cause}"
    become perform report name args

def runBatch (perform : Job → Act Unit) (command : List String) : Act Nat := do
  match command with
  | [] => return 0
  | name :: args =>
    let program := become perform (fun cause => s!"{name}: {cause}") name args
    Act.withStreams (← get).streams (some {}) (Act.process program)
    return (← get).status

def runBatches (perform : Job → Act Unit) (failed : Bool) : List (List String) → Act Nat
  | [] => return if failed then 123 else 0
  | command :: rest => do
    match ← runBatch perform command with
    | 0 => runBatches perform failed rest
    | 126 => return 126
    | 127 => return 127
    | 255 =>
      let name := command.headD ""
      Act.tell s!"{name}: exited with status 255; aborting"
      return 124
    | _ => runBatches perform true rest

def withArguments (perform : Job → Act Unit) (args : List String) : Act Unit := do
  let plan := Batch.ofArgs args
  let text ← Act.whole (← Act.takeInput)
  let (commands, isOpen) := plan.commands text
  if isOpen then
    Act.tell <| "unmatched quote; by default quotes are special to xargs unless you " ++
      "use the -0 option"
    Act.setStatus 1
  else Act.setStatus (← runBatches perform false commands)

def leastMemory : Nat := 576

def libraryMemory : Nat := 2688

def requireMemory (image : Image) : Act Unit := do
  let memory := (← get).ceilings.memory.getD libraryMemory
  if memory < leastMemory then throw (.exhausted 11)
  if memory < libraryMemory then
    Act.write 2 <| image.name ++ ": error while loading shared libraries: libc.so.6: " ++
      "failed to map segment from shared object\n"
    Act.setStatus 127
    throw .exit

/-- What a program calls itself: what it was called by, or only the last name of that. -/
def label (image : Image) : String :=
  if ["rev", "setsid"].contains image.program then NameProgram.lastName image.name ""
  else image.name

def run (perform : Job → Act Unit) (image : Image) : Act Unit := do
  requireMemory image
  modify fun s => { s with name := image.label }
  match Utility.program? image.program, image.program with
  | some program, _ => Act.setStatus (← program image.args)
  | none, "env" => environment perform image.args
  | none, "timeout" => withTimeLimit perform image.args
  | none, "nice" => withPriority perform image.args
  | none, "nohup" => detached perform true image.args
  | none, "setsid" => detached perform false image.args
  | none, "xargs" => withArguments perform image.args
  | none, _ =>
    modify (session · image.name)
    match ← Act.ending (shell perform image.args) with
    | none | some .exit => return
    | some h => throw h

end Image

/-- Does what a script asks for, with scripts and programs nested at most `depth` levels. -/
def perform : (depth : Nat) → Job → Act Unit
  | 0, _ => throw .endless
  | depth + 1, .source text => Script.runText (perform depth) text
  | depth + 1, .script script => script.run (perform depth)
  | depth + 1, .image image => Image.run (perform depth) image

def maxDepth : Nat := 1200

end FixGrader.Shell
