import FixGrader.Shell.Builtin
import FixGrader.Shell.Redirection

namespace FixGrader.Shell

namespace Script

def bucket (name : String) : Nat :=
  (((name.toList.headD '\x00').toNat * 16) + (name.toList.map Char.toNat).foldl (· + ·) 0) % 39

def handedOn (s : Session) : List Binding :=
  let shared := s.bindings.filter fun b => b.exported && b.value.isSome
  shared.mergeSort fun a b => bucket a.name ≤ bucket b.name

def searchPath (s : Session) : String := (s.param? "PATH").getD ""

/-- Runs a program as a process of its own, or, if it is the last thing that this process does, in
its place. `report` tells why it cannot be run. -/
def launch (perform : Job → Act Unit) (report : String → Act Unit) (isLast : Bool)
    (settings : List (String × String)) (name : String) (args : List String) : Act Unit := do
  if isLast then modify Session.narrow
  let s ← get
  let session := settings.foldl (fun s (n, v) => (s.assign n v).share n) s
  match Image.find s.files (searchPath session) true name args with
  | .error fault =>
    let denied := fault == .denied
    let problem := if denied || name.isEmpty then "Permission denied" else "not found"
    report s!"{name}: {problem}"
    Act.setStatus (if denied then 126 else 127)
  | .ok image =>
    let process : Act Unit := do
      set { session with bindings := handedOn session }
      perform (.image image)
    match ← Act.ending (Act.process process) with
    | none => return
    | some (.killed signal) =>
      if signal != 2 && signal != 13 then
        Act.write 2 (Signal.descriptions.getD (signal - 1) s!"Signal {signal}" ++ "\n")
      Act.setStatus (128 + signal)
    | some h => throw h

def describe (atLength : Bool) (name : String) : Act Nat := do
  let s ← get
  let say (long : String) (short : String := name) : Act Nat := do
    Act.print (if atLength then s!"{name}{long}\n" else short ++ "\n")
    return 0
  if reservedWords.contains name then say " is a shell keyword"
  else if (s.functions.lookup name).isSome then say " is a shell function"
  else if Builtin.isSpecial name then say " is a special shell builtin"
  else if Builtin.names.contains name then say " is a shell builtin"
  else
    match Image.locate s.files (searchPath s) name with
    | .ok (path, _) => say (" is " ++ path) path
    | .error _ =>
      if atLength then Act.print (name ++ ": not found\n")
      return 127

def maxCalls : Nat := 1000

def call (perform : Job → Act Unit) (settings : List (String × String)) (body : Script)
    (args : List String) : Act Unit := do
  let params := (← get).params
  let loops := (← get).loops
  let hidden := (← get).hidden
  let calls := (← get).calls
  if calls = maxCalls then Act.fail s!"Maximum function recursion depth ({maxCalls}) reached"
  modify fun s =>
    let s := { s with params := args, loops := 0, hidden := some [], calls := calls + 1 }
    settings.foldl (fun s (n, v) => s.assign n v) s
  let ended ← Act.ending (perform (.script body))
  modify fun s =>
    let s := (s.hidden.getD []).foldl Session.restore s
    { s with params := params, loops := loops, hidden := hidden, calls := calls }
  match ended with
  | none | some .back => return
  | some h => throw h

def invoke (perform : Job → Act Unit) (isLast : Bool) (settings : List (String × String))
    (name : String) (args : List String) : Act Unit := do
  match Builtin.find? perform name, name, args with
  | some builtin, _, _ =>
    let bindings := (← get).bindings
    modify fun s => settings.foldl (fun s (n, v) => s.assign n v) s
    let status ← builtin args
    Act.setStatus status
    if !settings.isEmpty && !Builtin.isSpecial name then
      modify fun s => { s with bindings := bindings }
  | none, "exec", name :: args =>
    launch perform (fun m => Act.report ("exec: " ++ m)) isLast settings name args
    throw .exit
  | none, "exec", [] => Act.setStatus 0
  | none, "command", args =>
    match ← Builtin.dropOptions "command" ['p', 'v', 'V'] args with
    | none => Act.setStatus 2
    | some (_, []) => Act.setStatus 0
    | some (letters, name :: args) =>
      if letters.contains 'V' then Act.setStatus (← describe true name)
      else if letters.contains 'v' then Act.setStatus (← describe false name)
      else
        match Builtin.find? perform name, name, args with
        | some builtin, _, _ => Act.setStatus (← builtin args)
        | none, "exec", name :: args =>
          launch perform (fun m => Act.report ("exec: " ++ m)) isLast settings name args
          throw .exit
        | none, _, _ => launch perform Act.complain isLast settings name args
  | none, "type", names =>
    let found ← names.mapM (describe true)
    Act.setStatus (found.foldl max 0)
  | none, name, args => launch perform Act.complain isLast settings name args

def usesOutput (w : Word) : Bool :=
  w.any fun
    | .output .. => true
    | _ => false

def checkStatus : Act Unit := do
  let s ← get
  if s.isStrict && s.status != 0 then throw .exit

def trace (values : List (String × String)) (fields : List String) : Act Unit := do
  if (← get).options.contains 'x' then
    let words := values.map (fun (n, v) => s!"{n}={v}") ++ fields
    Act.write 2 ("+ " ++ " ".intercalate words ++ "\n")

def simpleCommand (perform : Job → Act Unit) (isLast : Bool) (line : Nat)
    (settings : List (String × Word)) (words : List Word) (redirects : List Redirect) :
    Act Unit := do
  let run (text : List Char) : Act Unit := perform (.source text)
  if (← get).options.contains 'n' then return
  modify fun s => { s with line := line }
  let fields ← Expansion.command run words
  let values ← settings.mapM fun (name, w) => return (name, ← Expansion.given run w)
  trace values fields
  match fields with
  | [] =>
    if !settings.any (usesOutput ·.2) then Act.setStatus 0
    values.forM fun (n, v) => Expansion.assign Act.fail n v
    Redirect.within run redirects (pure ())
  | ["exec"] => Redirect.keep run redirects
  | name :: args =>
    values.forM fun v => Expansion.requireVariable Act.fail v.1
    let functions := (← get).functions
    Redirect.within run redirects <|
      match functions.lookup name with
      | some body => call perform values body args
      | none => invoke perform isLast values name args
  modify Redirect.storeAttached
  checkStatus

def maxRounds : Nat := 300000

def runBody (body : Act Unit) : Act Bool := do
  modify fun s => { s with loops := s.loops + 1 }
  let ended ← Act.ending body
  modify fun s => { s with loops := s.loops - 1 }
  match ended with
  | none => return true
  | some (.leave loops again) =>
    if 1 < loops then throw (.leave (loops - 1) again)
    Act.setStatus 0
    return again
  | some h => throw h

/-- Repeats `body` while `test` holds. The status is that of the last round. -/
def rounds (test : Act Bool) (body : Act Unit) : (fuel last : Nat) → Act Unit
  | 0, _ => throw .endless
  | fuel + 1, last => do
    if ← test then
      if ← runBody body then rounds test body fuel (← get).status
    else Act.setStatus last

def runFor (name : String) (body : Act Unit) : List String → Act Unit
  | [] => pure ()
  | value :: rest => do
    Expansion.assign Act.fail name value
    if ← runBody body then runFor name body rest

def startMillis : Nat := 1

/-- Runs `act` as a process in the background. All that it does is known at once, and counts from
when it would be done. -/
def startChild (act : Act Unit) : Act Unit := do
  let s ← get
  let id := s.nextChild
  set { s with
    clock := s.clock + startMillis
    background := id :: s.background
    children := s.children ++ [Child.mk id s.clock 0 []]
    releases := []
    latest := none }
  let ended ← Act.ending (Act.withStreams s.streams (some {}) (Act.apart act))
  modify fun t =>
    let (ends, status) := match ended with
      | some .overdue | some .endless => (t.deadline, 0)
      | some (.exhausted signal) => (t.clock, 128 + signal)
      | some (.killed signal) => (t.clock, 128 + signal)
      | _ => (t.clock, t.status)
    let child : Child :=
      ⟨id, ends, status, s.openBuffers.map fun b => (b, t.holdsUntil ends b)⟩
    { t with
      children := t.children.map fun c => if c.id == id then child else c
      clock := s.clock
      background := s.background
      releases := s.releases
      jobs := id :: s.jobs
      latest := some id
      status := 0 }

def matches? (perform : Job → Act Unit) (subject : Word) (patterns : List Word) : Act Bool := do
  let expand (text : List Char) : Act Unit := perform (.source text)
  let value ← Expansion.text expand subject
  let patterns ← patterns.mapM (Expansion.pattern expand)
  return patterns.any (Glob.isMatch · value)

def isNothing : Script → Bool
  | nothing => true
  | _ => false

mutual

def run (perform : Job → Act Unit) : Script → Act Unit
  | nothing => pure ()
  | simple line settings words redirects =>
    simpleCommand perform false line settings words redirects
  | seq a b => do
    run perform a
    run perform b
  | andThen a b => do
    Act.leniently (run perform a)
    if (← get).status = 0 then run perform b
  | orElse a b => do
    Act.leniently (run perform a)
    if (← get).status != 0 then run perform b
  | pipe a b => do
    let s ← get
    let written ← Act.feed (Act.apart (run perform a))
    Act.withStreams s.streams (some written) (Act.beside s.clock (run perform b))
    checkStatus
  | negated a => do
    Act.leniently (run perform a)
    modify fun s => { s with status := if s.status = 0 then 1 else 0 }
  | background (within redirects body) =>
    startChild <| Redirect.within (fun text => perform (.source text)) redirects do
      modify Session.narrow
      runLast perform body
  | background a => startChild (runLast perform a)
  | choice test yes no => do
    Act.leniently (run perform test)
    if (← get).status = 0 then run perform yes
    else if isNothing no then Act.setStatus 0
    else run perform no
  | matching subject patterns yes no => do
    if ← matches? perform subject patterns then run perform yes
    else if isNothing no then Act.setStatus 0
    else run perform no
  | define name body =>
    modify fun s => { s with functions := (name, body) :: s.functions, status := 0 }
  | loop awaited test body => do
    let holds : Act Bool := do
      Act.leniently (run perform test)
      return ((← get).status != 0) == awaited
    rounds holds (run perform body) maxRounds 0
  | forEach name words body => do
    let values ← Expansion.fields (fun text => perform (.source text)) words
    runFor name (run perform body) values
  | subshell body => do
    Act.process (run perform body)
    checkStatus
  | within redirects body =>
    Redirect.within (fun text => perform (.source text)) redirects (run perform body)

def runLast (perform : Job → Act Unit) : Script → Act Unit
  | simple line settings words redirects =>
    simpleCommand perform true line settings words redirects
  | seq a nothing => runLast perform a
  | seq a b => do
    run perform a
    runLast perform b
  | andThen a b => do
    Act.leniently (run perform a)
    if (← get).status = 0 then runLast perform b
  | orElse a b => do
    Act.leniently (run perform a)
    if (← get).status != 0 then runLast perform b
  | choice test yes no => do
    Act.leniently (run perform test)
    if (← get).status = 0 then runLast perform yes
    else if isNothing no then Act.setStatus 0
    else runLast perform no
  | matching subject patterns yes no => do
    if ← matches? perform subject patterns then runLast perform yes
    else if isNothing no then Act.setStatus 0
    else runLast perform no
  | pipe a b => do
    let s ← get
    let writer : Act Unit := do
      modify Session.narrow
      runLast perform a
    let written ← Act.feed (Act.apart writer)
    let first ← get
    modify fun t => { t with clock := s.clock, releases := s.releases }
    Act.withStreams s.streams (some written) (Act.process (runLast perform b))
    modify (Session.join first)
  | subshell body => runLast perform body
  | script => run perform script

end

def runText (perform : Job → Act Unit) (text : List Char) : Act Unit := do
  let (commands, fault?) := read text
  for command in commands do
    run perform command
  match fault? with
  | none => return
  | some (line, fault) =>
    modify fun s => { s with line := line }
    Act.fail fault.message

end Script

end FixGrader.Shell
