import FixGrader.Shell.OptionWord
import FixGrader.Shell.Program
import FixGrader.Shell.Utility
import FixGrader.Tool.Signal

namespace FixGrader.Shell

inductive Job where
  | source (text : List Char)
  | script (script : Script)
  | image (image : Image)

namespace Builtin

def exit (args : List String) : Act Nat := do
  let n ← Variable.number "exit" (← get).status args
  Act.setStatus (n % 0x100)
  throw .exit

def giveBack (args : List String) : Act Nat := do
  let n ← Variable.number "return" (← get).status args
  Act.setStatus (n % 0x100)
  throw .back

/-- Leaves loops; where there are fewer, all of them, and outside loops nothing. -/
def leave (again : Bool) (args : List String) : Act Nat := do
  let loops := min (← Variable.number "break" 1 args) (← get).loops
  if loops = 0 then return 0
  throw (.leave loops again)

def receive (perform : Job → Act Unit) (signal : Nat) : Act Unit := do
  let s ← get
  let trap? := if signal = 9 || signal = 19 then none else s.traps.lookup signal
  match trap? with
  | some action => perform (.source action.toList)
  | none =>
    if signal = 0 || Signal.harmless.contains signal then return
    else if Signal.stopping.contains signal then throw .overdue
    else throw (.killed signal)

def signalChild (s : Session) (child : Child) (signal : Nat) : Session :=
  if child.ends ≤ s.clock || signal = 0 || Signal.harmless.contains signal then s
  else if Signal.stopping.contains signal then
    let hold (h : Nat × Nat) : Nat × Nat := if s.clock < h.2 then (h.1, s.deadline) else h
    let stop (c : Child) : Child :=
      if c.id != child.id then c else { c with ends := s.deadline, holds := c.holds.map hold }
    { s with children := s.children.map stop }
  else s.endChild child.id (128 + signal)

def listSignals (args : List String) : Act Nat := do
  match args with
  | [] =>
    for n in List.range 65 do
      Act.print (Signal.shortName n ++ "\n")
    return 0
  | arg :: _ =>
    match arg.toNat? with
    | none =>
      Act.report s!"kill: Illegal number: {arg}"
      return 2
    | some n =>
      let signal := if 128 < n then n - 128 else n
      if 0 < signal && signal ≤ 64 then
        Act.print (Signal.shortName signal ++ "\n")
        return 0
      else
        Act.report s!"kill: invalid signal number or exit status: {arg}"
        return 2

def sendSignal (perform : Job → Act Unit) (signal : Nat) : (targets : List String) → Act Nat
  | [] => return 0
  | target :: rest => do
    let s ← get
    if target == toString s.id then
      receive perform signal
      sendSignal perform signal rest
    else if let some child := target.toNat?.bind s.livingChild? then
      set (signalChild s child signal)
      sendSignal perform signal rest
    else if target.isNat then
      Act.report "kill: No such process\n"
      discard <| sendSignal perform signal rest
      return 1
    else
      Act.report s!"kill: Illegal number: {target}"
      return 2

def kill (perform : Job → Act Unit) (args : List String) : Act Nat := do
  let send (signal : Nat) (targets : List String) : Act Nat := do
    let targets := if targets.head? == some "--" then targets.drop 1 else targets
    if targets.isEmpty then
      Act.report <| "kill: Usage: kill [-s sigspec | -signum | -sigspec] [pid | job]... or\n" ++
        "kill -l [exitstatus]"
      return 2
    sendSignal perform signal targets
  match args with
  | "-l" :: rest => listSignals rest
  | "-s" :: name :: rest =>
    match Signal.number? name with
    | some signal => send signal rest
    | none =>
      Act.report s!"kill: invalid signal number or name: {name}"
      return 2
  | option :: rest =>
    match option.toList with
    | ['-', '-'] => send 15 rest
    | '-' :: name =>
      match Signal.number? (String.ofList name) with
      | some signal => send signal rest
      | none =>
        Act.report ("kill: Illegal option -" ++ String.ofList (name.take 1))
        return 2
    | _ => send 15 args
  | [] => send 15 []

def dropOptions (command : String) (known : List Char) : List String →
    Act (Option (List Char × List String))
  | [] => return some ([], [])
  | arg :: rest => do
    match arg.toList with
    | ['-', '-'] => return some ([], rest)
    | '-' :: c :: letters =>
      match (c :: letters).find? (!known.contains ·) with
      | some bad =>
        Act.report s!"{command}: Illegal option -{bad}"
        return none
      | none =>
        match ← dropOptions command known rest with
        | none => return none
        | some (more, rest) => return some (c :: letters ++ more, rest)
    | _ => return some ([], arg :: rest)

def directoryPaths (s : Session) (path : String) : List String :=
  let parts := (s.param? "CDPATH").map fun p => (Text.splitAt ':' p.toList).map String.ofList
  let isPlain := (FileTree.names path).head?.any fun n => n != "" && n != "." && n != ".."
  match parts with
  | some parts =>
    if isPlain then (parts.map fun p => if p.isEmpty then path else p ++ "/" ++ path) ++ [path]
    else [path]
  | none => [path]

def changeDirectory (args : List String) : Act Nat := do
  match ← dropOptions "cd" ['L', 'P'] args with
  | none => return 2
  | some (_, args) =>
    let s ← get
    let path := match args.head? with
      | none => (s.param? "HOME").getD "."
      | some "-" => (s.param? "OLDPWD").getD "."
      | some path => path
    if path.isEmpty then return 0
    let found := (directoryPaths s path).findSome? fun p =>
      (s.files.enter p).toOption.map fun files => (p, files)
    match found with
    | none =>
      Act.report s!"cd: can't cd to {path}"
      return 2
    | some (place, files) =>
      let old := s.directory
      let s := { s with files := files }
      set (((s.assign "OLDPWD" old).share "OLDPWD").assign "PWD" s.directory)
      if args.head? == some "-" || place != path then Act.print (s.directory ++ "\n")
      return 0

def ceiling (args : List String) : Act Nat := do
  let letters := ((args.filter (·.startsWith "-")).flatMap String.toList).filter fun c =>
    !(['-', 'H', 'S'].contains c)
  let kind := letters.getLastD 'f'
  let s ← get
  let current := match kind with
    | 'v' => s.ceilings.memory
    | 't' => s.ceilings.time
    | 'c' => some 0
    | 's' => some 8192
    | _ => none
  if let some bad := letters.find? fun c => !"tfdscmlpnvwr".contains c then
    Act.report s!"ulimit: Illegal option -{bad}"
    return 2
  match args.find? fun a => !a.startsWith "-" with
  | none =>
    Act.print ((current.map toString).getD "unlimited" ++ "\n")
    return 0
  | some value =>
    if value != "unlimited" && !value.isNat then
      Act.report "ulimit: bad number"
      return 2
    let wanted := value.toNat?
    let raises := match wanted, current with
      | none, some _ => true
      | some n, some m => m < n
      | _, none => false
    if raises && (kind == 'v' || kind == 't') then
      Act.report "ulimit: error setting limit (Operation not permitted)"
      return 2
    let c := s.ceilings
    if kind == 'v' then set { s with ceilings := { c with memory := wanted } }
    else if kind == 't' then set { s with ceilings := { c with time := wanted } }
    return 0

def listTraps : Act Nat := do
  let traps := (← get).traps.mergeSort fun a b => a.1 ≤ b.1
  for (signal, action) in traps do
    let name := if signal = 0 then "EXIT" else Signal.shortName signal
    Act.print s!"trap -- {Variable.quote action} {name}\n"
  return 0

def setTraps (action : String) : List String → Act Nat
  | [] => return 0
  | name :: rest => do
    match Signal.number? name with
    | none =>
      Act.write 2 s!"trap: {name}: bad trap\n"
      return 1
    | some signal =>
      modify fun s =>
        let others := s.traps.filter (·.1 != signal)
        { s with traps := if action == "-" then others else (signal, action) :: others }
      setTraps action rest

def trap (args : List String) : Act Nat :=
  match if args.head? == some "--" then args.drop 1 else args with
  | [] => listTraps
  | [signal] => setTraps "-" [signal]
  | action :: signals => setTraps action signals

def within (context : String) (act : Act Unit) : Act Unit := do
  let before := (← get).context
  modify fun s => { s with context := some context }
  Act.always act fun s => { s with context := before }

/-- Where the script of a name is: at the path that it is, or in one of the directories for
programs. -/
def scriptPath? (s : Session) (name : String) : Option String :=
  if name.contains '/' then some name
  else
    let dirs := (Text.splitAt ':' ((s.param? "PATH").getD "").toList).map String.ofList
    (dirs.map fun d => (if d.isEmpty then "." else d) ++ "/" ++ name).find? fun p =>
      !name.isEmpty && (s.files.readBytes p).isOk

def runFile (perform : Job → Act Unit) (args : List String) : Act Nat := do
  match if args.head? == some "--" then args.drop 1 else args with
  | [] => return 0
  | name :: _ =>
    let s ← get
    match scriptPath? s name with
    | none => Act.refuse s!".: {name}: not found"
    | some path =>
      match s.files.readBytes path with
      | .error .isDirectory => return 0
      | .error _ => Act.refuse s!".: cannot open {path}: No such file"
      | .ok bytes =>
        Act.setStatus 0
        within path (perform (.source (bytes.map Char.ofNat)))
        return (← get).status

def waitUntil (time : Nat) : Act Unit := do
  let s ← get
  if s.deadline ≤ time then throw .overdue
  set { s with clock := max s.clock time }

/-- Waits for processes in the background, or for all; the status is that of the last one named. -/
def wait (args : List String) : Act Nat := do
  let s ← get
  if args.isEmpty then
    waitUntil <| (s.jobs.filterMap fun id => (s.child? id).map Child.ends).foldl max 0
    return 0
  let mut status := 0
  for arg in args do
    match arg.toNat? with
    | none =>
      Act.report s!"wait: Illegal number: {arg}"
      return 2
    | some id =>
      match if s.jobs.contains id then s.child? id else none with
      | none => status := 127
      | some child =>
        waitUntil child.ends
        if 128 < child.status then
          Act.write 2 (Signal.descriptions.getD (child.status - 129) "" ++ "\n")
        status := child.status
  return status

def evaluate (perform : Job → Act Unit) (args : List String) : Act Nat := do
  Act.setStatus 0
  within "eval" (perform (.source (" ".intercalate args).toList))
  return (← get).status

def names : List String :=
  ["true", "false", "echo", "printf", "test", "[", "pwd", "kill", "cd", "chdir", "ulimit", "read",
   "wait", "umask", "getopts", "hash", "jobs", "fg", "bg", "type", "command"]

def isSpecial (name : String) : Bool := Script.specialNames.contains name || name == "local"

def mask (args : List String) : Act Nat := do
  let current := (← get).mask
  let setTo (mode : Nat) : Act Nat := do
    modify fun s => { s with mask := Permission.all - mode }
    return 0
  match args with
  | [] =>
    Act.print (Permission.toOctal current ++ "\n")
    return 0
  | ["-S"] =>
    Act.print (Permission.toWords (Permission.all - current) ++ "\n")
    return 0
  | words :: _ =>
    if words.toList.head?.any Char.isDigit then
      match Permission.octal? words with
      | some n => setTo (Permission.all - (n &&& Permission.all))
      | none =>
        Act.report s!"umask: Illegal number: {words}"
        return 2
    else
      match Permission.changed? Permission.all (Permission.all - current) words with
      | some mode => setTo mode
      | none =>
        Act.report s!"umask: Illegal mode: {words}"
        return 2

def look (args : List String) : Act Nat := do
  let s ← get
  let mut status := 0
  for name in args.filter (!·.startsWith "-") do
    if !(Image.locate s.files ((s.param? "PATH").getD "") name).isOk then
      Act.report s!"hash: {name}: not found"
      status := 1
  return status

/-- The computing time so far, of the shell and of its children; what is done takes none. -/
def times : Act Nat := do
  let line := "0m0.000000s 0m0.000000s\n"
  Act.print (line ++ line)
  return 0

def missingJob (name : String) : Act Nat := do
  Act.report s!"{name}: No current job"
  return 2

def writing (name : String) (act : Act Nat) : Act Nat := do
  if ((← get).streams.lookup 1).isSome then act
  else
    Act.report s!"{name}: {name}: I/O error"
    return 1

def find? (perform : Job → Act Unit) (name : String) : Option (List String → Act Nat) :=
  match name with
  | ":" | "true" => some fun _ => return 0
  | "false" => some fun _ => return 1
  | "echo" => some fun args => writing name (Utility.shellEcho args)
  | "printf" => some fun args => writing name (Utility.shellPrintf args)
  | "test" => some (Condition.test "test")
  | "[" => some (Condition.test "[")
  | "pwd" => some fun _ => Utility.workDir
  | "exit" => some exit
  | "return" => some giveBack
  | "break" => some (leave false)
  | "continue" => some (leave true)
  | "kill" => some (kill perform)
  | "cd" | "chdir" => some changeDirectory
  | "ulimit" => some ceiling
  | "export" => some Variable.share
  | "readonly" => some Variable.freeze
  | "unset" => some Variable.forget
  | "set" => some Variable.set
  | "shift" => some Variable.shift
  | "read" => some Variable.readLine
  | "getopts" => some OptionWord.take
  | "trap" => some trap
  | "wait" => some wait
  | "local" => some Variable.hide
  | "umask" => some mask
  | "hash" => some look
  | "jobs" => some fun _ => return 0
  | "fg" | "bg" => some fun _ => missingJob name
  | "eval" => some (evaluate perform)
  | "." => some (runFile perform)
  | "times" => some fun _ => times
  | _ => none

end Builtin

end FixGrader.Shell
