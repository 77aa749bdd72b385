import FixGrader.Files
import FixGrader.Shell.Script
import FixGrader.Tool.Signal
import FixGrader.Text.Bytes

namespace FixGrader.Shell

inductive Halt where
  | exit
  | back
  | leave (loops : Nat) (again : Bool)
  | killed (signal : Nat)
  | overdue
  | endless
  | exhausted (signal : Nat)
  deriving DecidableEq, Repr

/-- What is still to be read. If it is `endless`, more of the same kind follows. -/
structure Input where
  text : List Char := []
  endless : Bool := false
  size : Option Nat := none
  deriving Inhabited

/-- A variable; it may be marked before it has a value. -/
structure Binding where
  name : String
  value : Option String
  exported : Bool := false
  isConstant : Bool := false
  deriving Repr, Inhabited

/-- Ceilings as the shell reports them: kibibytes of memory and seconds of computing time. -/
structure Ceilings where
  memory : Option Nat := none
  time : Option Nat := none
  deriving Repr, Inhabited

/-- A text that was written, and by which processes in the background. -/
structure Chunk where
  time : Nat
  writers : List Nat
  text : String
  deriving Repr, Inhabited

/-- A process in the background: when it ends, and how. Whoever reads a buffer that it holds waits
for it, until the time beside the buffer. -/
structure Child where
  id : Nat
  ends : Nat
  status : Nat
  holds : List (Nat × Nat) := []
  deriving Repr, Inhabited

structure Session where
  name : String
  params : List String := []
  bindings : List Binding := []
  files : FileTree
  status : Nat := 0
  line : Nat := 1
  input : Input := {}
  streams : List (Nat × Option Nat) := [(1, some 0), (2, some 1)]
  buffers : Array (List Chunk) := #[[], []]
  clock : Nat := 0
  deadline : Nat
  children : List Child := []
  latest : Option Nat := none
  jobs : List Nat := []
  background : List Nat := []
  releases : List (Nat × Nat) := []
  ceilings : Ceilings := {}
  traps : List (Nat × String) := []
  functions : List (String × Script) := []
  loops : Nat := 0
  calls : Nat := 0
  options : List Char := []
  isTested : Bool := false
  context : Option String := none
  mask : Nat := 18
  attached : List (Nat × String) := []
  inputs : List (Nat × Input) := []
  optionPlace : Option (Nat × Option Nat) := none
  isPiped : Bool := false
  hidden : Option (List (String × Option Binding)) := none
  id : Nat := 4711
  deriving Inhabited

abbrev Act := ExceptT Halt (StateM Session)

namespace Session

def optionLetters : List Char := "uaCxnfe".toList

def isStrict (s : Session) : Bool := s.options.contains 'e' && !s.isTested

def binding? (s : Session) (name : String) : Option Binding :=
  s.bindings.find? (·.name == name)

def change (s : Session) (name : String) (f : Binding → Binding) : Session :=
  { s with bindings := s.bindings.map fun b => if b.name == name then f b else b }

def assign (s : Session) (name value : String) : Session :=
  if (s.binding? name).isSome then s.change name fun b => { b with value := value }
  else { s with bindings := s.bindings ++ [{ name, value }] }

def mark (s : Session) (name : String) (f : Binding → Binding) : Session :=
  if (s.binding? name).isSome then s.change name f
  else { s with bindings := s.bindings ++ [f { name, value := none }] }

def share (s : Session) (name : String) : Session :=
  s.mark name fun b => { b with exported := true }

def isConstant (s : Session) (name : String) : Bool := (s.binding? name).any Binding.isConstant

def unset (s : Session) (name : String) : Session :=
  { s with bindings := s.bindings.filter (·.name != name) }

def restore (s : Session) (before : String × Option Binding) : Session :=
  let others := s.bindings.filter (·.name != before.1)
  { s with bindings := others ++ before.2.toList }

def param? (s : Session) (name : String) : Option String :=
  match name with
  | "?" => some (toString s.status)
  | "#" => some (toString s.params.length)
  | "$" => some (toString s.id)
  | "0" => some s.name
  | "@" | "*" => if s.params.isEmpty then none else some (" ".intercalate s.params)
  | "!" => some ((s.latest.map toString).getD "")
  | "-" => some (String.ofList (optionLetters.filter s.options.contains))
  | name =>
    match name.toNat? with
    | some n => s.params[n - 1]?
    | none => (s.binding? name).bind Binding.value

def directory (s : Session) : String := "/" ++ "/".intercalate s.files.workDir

def write (s : Session) (stream : Nat) (text : String) : Session :=
  match s.streams.lookup stream with
  | some (some i) =>
    { s with buffers := s.buffers.modify i (⟨s.clock, s.background, text⟩ :: ·) }
  | _ => s

def openBuffer (s : Session) (text : String) : Nat × Session :=
  (s.buffers.size, { s with buffers := s.buffers.push [⟨0, [], text⟩] })

def buffer (s : Session) (i : Nat) : String :=
  let chunks := (s.buffers.getD i []).reverse.mergeSort fun a b => a.time ≤ b.time
  String.join (chunks.map Chunk.text)

def heldUntil (s : Session) (buffer : Nat) : Nat :=
  (s.children.filterMap fun c => c.holds.lookup buffer).foldl max 0

def awaited (s : Session) : Nat := max (s.heldUntil 0) (s.heldUntil 1)

def openBuffers (s : Session) : List Nat := (s.streams.filterMap (·.2)).eraseDups

def narrow (s : Session) : Session :=
  let closed := (List.range s.buffers.size).filter fun b =>
    !s.openBuffers.contains b && (s.releases.lookup b).isNone
  { s with releases := s.releases ++ closed.map (·, s.clock) }

def holdsUntil (s : Session) (ends buffer : Nat) : Nat := (s.releases.lookup buffer).getD ends

def nextChild (s : Session) : Nat := 10000 + s.children.length

/-- Two processes beside each other, one of which has led to `first` and the other to `s`: they are
over when both are, and hold what one of them holds. -/
def join (first s : Session) : Session :=
  let held (b : Nat) : Nat := max (first.holdsUntil first.clock b) (s.holdsUntil s.clock b)
  { s with
    clock := max first.clock s.clock
    releases := (List.range s.buffers.size).map fun b => (b, held b) }

def computing? (s : Session) : Option Nat := s.ceilings.time.map fun n => max n 1 * 1000

/-- The end of a process that has led to `s` since `start`, if what it did had no end: it is stopped
when its computing time is over, unless it waits for its reader before. -/
def endOfEndless (s : Session) (start : Nat) : Halt × Session :=
  match s.computing?, s.isPiped with
  | some millis, false =>
    if s.deadline ≤ start + millis then (.overdue, s)
    else (.exhausted 9, { s with clock := start + millis })
  | _, _ => (.endless, s)

def room (s : Session) : Nat :=
  let most := 0x400000
  (s.ceilings.memory.map fun n => min most (256 * n)).getD most

def child? (s : Session) (id : Nat) : Option Child := s.children.find? (·.id == id)

def livingChild? (s : Session) (id : Nat) : Option Child :=
  s.children.find? fun c => c.id == id && s.clock ≤ c.ends

def endChild (s : Session) (id status : Nat) : Session :=
  let finish (c : Child) : Child :=
    if c.id != id then c
    else ⟨id, s.clock, status, c.holds.map fun h => (h.1, min h.2 s.clock)⟩
  let isLate (c : Chunk) : Bool := s.clock < c.time && c.writers.contains id
  { s with
    children := s.children.map finish
    buffers := s.buffers.map (·.filter (!isLate ·)) }

def connect (s : Session) (stream : Nat) (buffer : Option Nat) : Session :=
  { s with streams := (stream, buffer) :: s.streams.filter (·.1 != stream) }

end Session

namespace Act

def write (stream : Nat) (text : String) : Act Unit := modify (·.write stream text)

def print (text : String) : Act Unit := write 1 text

def report (message : String) : Act Unit := do
  let s ← get
  write 2 s!"{s.name}: {s.line}: {message}\n"

def tell (problem : String) : Act Unit := do
  write 2 s!"{(← get).name}: {problem}\n"

def complain (message : String) : Act Unit := do
  let context := ((← get).context.map (· ++ ": ")).getD ""
  report (context ++ message)

def fail {α : Type} (message : String) : Act α := do
  complain message
  modify fun s => { s with status := 2 }
  throw .exit

def refuse {α : Type} (message : String) : Act α := do
  report message
  modify fun s => { s with status := 2 }
  throw .exit

def overflow {α : Type} : Act α := do
  throw (if (← get).ceilings.memory.isSome then .exhausted 11 else .endless)

def fit (text : String) : Act String := do
  if (← get).room < text.length then overflow else return text

def pause (millis : Nat) : Act Unit := do
  let s ← get
  if s.deadline ≤ s.clock + millis then throw .overdue
  set { s with clock := s.clock + millis }

def takeInput : Act Input :=
  modifyGet fun s => (s.input, { s with input := if s.input.endless then s.input else {} })

def whole (i : Input) : Act (List Char) := if i.endless then throw .endless else return i.text

/-- All of an input, for a program that keeps it; for one without end, memory does not suffice. -/
def keepWhole (status : Nat) (i : Input) : Act (List Char) := do
  if i.endless && (← get).ceilings.memory.isSome then
    tell "memory exhausted"
    modify fun s => { s with status := status }
    throw .exit
  whole i

def longInput : Nat := 0x100000

def endlessFile? (path : String) : Option (List Char) :=
  if path == "/dev/zero" then some (List.replicate longInput '\x00')
  else if path == "/dev/urandom" || path == "/dev/random" then
    some ((List.range longInput).map fun n => Char.ofNat (n * 167 % 0x101 % 0x100))
  else none

def openFile (path : String) : Act (Except FileFault Input) := do
  if let some text := endlessFile? path then return .ok { text, endless := true }
  let isDevice := path.startsWith "/dev/"
  return ((← get).files.readBytes path).map fun bytes =>
    { text := bytes.map Char.ofNat, size := if isDevice then none else some bytes.length }

def firstBytes (n : Nat) (i : Input) : Act (List Char) := do
  let size := i.text.length
  if !i.endless || n ≤ size then return i.text.take n
  if size = 0 || 0x1000000 < n then throw .endless
  return ((List.replicate (n / size + 1) i.text).flatten).take n

def beginning (shorten : List Char → List Char) (i : Input) : Act (List Char) := do
  let kept := shorten i.text
  if i.endless && kept.length == i.text.length then throw .endless
  return kept

def takeLine : Act (List Char × Bool) := do
  let s ← get
  match s.input.text.span (· != '\n') with
  | (line, _ :: rest) =>
    set { s with input := { s.input with text := rest } }
    return (line, true)
  | (_, []) => return (← whole (← takeInput), false)

def always {α : Type} (act : Act α) (after : Session → Session) : Act α := fun s =>
  let (r, s) := act.run s
  (r, after s)

def withStreams {α : Type} (streams : List (Nat × Option Nat)) (input : Option Input)
    (act : Act α) : Act α := do
  let s ← get
  set { s with streams := streams, input := input.getD s.input }
  always act fun s' =>
    { s' with streams := s.streams, input := if input.isSome then s.input else s'.input }

def awaitBuffer (buffer : Nat) : Act Unit := do
  let s ← get
  pause (s.heldUntil buffer - s.clock)

/-- Runs `act` as a process of its own: of its changes only files, output and time remain, and its
status. -/
def apart (act : Act Unit) : Act Unit := do
  let s ← get
  let back (s' : Session) : Session :=
    { s with files := { s'.files with workDir := s.files.workDir }
             buffers := s'.buffers
             input := s'.input
             clock := s'.clock
             children := s'.children
             inputs := s'.inputs
             releases := s'.releases
             status := s'.status }
  fun t =>
    let (r, t) := act.run { t with jobs := [] }
    match r with
    | .error .exit | .error .back | .error (.leave ..) => (.ok (), back t)
    | .error .endless =>
      let (h, t) := t.endOfEndless s.clock
      (.error h, back t)
    | .error h => (.error h, back t)
    | .ok () => (.ok (), back t)

def setStatus (status : Nat) : Act Unit := modify fun s => { s with status := status }

def ending (act : Act Unit) : Act (Option Halt) := fun s =>
  match act.run s with
  | (.ok (), s) => (.ok none, s)
  | (.error h, s) => (.ok (some h), s)

def process (act : Act Unit) : Act Unit := do
  match ← ending (apart act) with
  | none => return
  | some (.exhausted signal) =>
    write 2 (Signal.descriptions.getD (signal - 1) "" ++ "\n")
    setStatus (128 + signal)
  | some h => throw h

def capture (act : Act Unit) : Act String := do
  let s ← get
  let (i, opened) := s.openBuffer ""
  set (opened.connect 1 (some i))
  let ended ← ending act
  modify fun s' => { s' with streams := s.streams }
  if ended.isNone then awaitBuffer i
  let text := String.ofList (((← get).buffer i).toList.filter (· != '\x00'))
  match ended with
  | none => fit text
  | some .endless => if text.isEmpty then throw .endless else overflow
  | some h => throw h

def pipeSize : Nat := 0x10000

/-- What `act` writes, as the input of a process beside it. If it never ends, it is over when it has
to wait for a reader who is. -/
def feed (act : Act Unit) : Act Input := do
  let s ← get
  let (i, opened) := s.openBuffer ""
  set { opened.connect 1 (some i) with isPiped := true }
  let ended ← ending act
  modify fun s' => { s' with streams := s.streams, isPiped := s.isPiped }
  if ended.isNone then awaitBuffer i
  let text := ((← get).buffer i).toList
  match ended with
  | none => return { text }
  | some .endless =>
    if text.length ≤ pipeSize then throw .endless
    return { text, endless := true }
  | some h => throw h

def leniently (act : Act Unit) : Act Unit := do
  let isTested := (← get).isTested
  modify fun s => { s with isTested := true }
  always act fun s => { s with isTested := isTested }

def beside (start : Nat) (act : Act Unit) : Act Unit := do
  let ended := (← get).clock
  modify fun s => { s with clock := start }
  process act
  modify fun s => { s with clock := max ended s.clock }

end Act

end FixGrader.Shell
