import FixGrader.Shell.Expansion

namespace FixGrader.Shell

namespace Redirect

/-- The state of the streams while redirections are made, and the files to write in the end. -/
structure Plan where
  streams : List (Nat × Option Nat)
  inputs : List (Nat × Input)
  input : Option Input := none
  source : Option Nat := none
  own : List Nat := []
  files : List (Nat × String) := []

def connect (p : Plan) (stream : Nat) (buffer : Option Nat) : Plan :=
  { p with streams := (stream, buffer) :: p.streams.filter (·.1 != stream) }

def close (p : Plan) (stream : Nat) : Plan :=
  { p with
    streams := p.streams.filter (·.1 != stream)
    inputs := p.inputs.filter (·.1 != stream)
    own := stream :: p.own }

def supply (p : Plan) (stream : Nat) (input : Input) (source : Option Nat) : Plan :=
  if stream == 0 then { p with input := input, source := source }
  else { close p stream with inputs := (stream, input) :: p.inputs.filter (·.1 != stream) }

def copy (p : Plan) (stream : Nat) (source : String) : Except String Plan :=
  if source == "-" then .ok (close p stream)
  else
    let number := source.toNat?
    match number.bind (List.lookup · p.streams), number.bind (List.lookup · p.inputs) with
    | some buffer, _ => .ok (connect p stream buffer)
    | none, some input => .ok (supply p stream input number)
    | none, none => if source == "0" then .ok p else .error s!"{source}: Bad file descriptor"

def openText : FileFault → String
  | .isDirectory => "Is a directory"
  | .nameTooLong => "File name too long"
  | _ => "No such file"

def createText : FileFault → String
  | .isDirectory => "Is a directory"
  | .nameTooLong => "File name too long"
  | _ => "Directory nonexistent"

def readFrom (p : Plan) (stream : Nat) (path : String) : Act (Except String Plan) := do
  match ← Act.openFile path with
  | .ok input => return .ok (supply p stream input none)
  | .error fault => return .error s!"cannot open {path}: {openText fault}"

def writeTo (p : Plan) (stream : Nat) (path : String) (atEnd force : Bool) :
    Act (Except String Plan) := do
  match path with
  | "/dev/null" => return .ok (connect p stream none)
  | "/dev/stdout" => return copy p stream "1"
  | "/dev/stderr" => return copy p stream "2"
  | path =>
    let s ← get
    let found := s.files.readBytes path
    if s.options.contains 'C' && !atEnd && !force && found.isOk then
      return .error s!"cannot create {path}: File exists"
    let before := if atEnd then found.toOption.getD [] else []
    match s.files.writeBytes path before with
    | .error fault => return .error s!"cannot create {path}: {createText fault}"
    | .ok files =>
      let (i, s) := s.openBuffer (Text.Bytes.ofNats before)
      set { s with files := files }
      return .ok { connect p stream (some i) with files := (i, path) :: p.files }

def plan (run : List Char → Act Unit) (p : Plan) (r : Redirect) : Act (Except String Plan) := do
  match r.target with
  | .readFile name => readFrom p r.stream (← Expansion.text run name)
  | .writeFile name atEnd force => writeTo p r.stream (← Expansion.text run name) atEnd force
  | .stream source => return copy p r.stream (← Expansion.text run source)
  | .text body =>
    return .ok (supply p r.stream { text := (← Expansion.text run body).toList } none)

def planAll (run : List Char → Act Unit) (p : Plan) : List Redirect → Act (Except String Plan)
  | [] => return .ok p
  | r :: rest => do
    match ← plan run p r with
    | .ok p => planAll run p rest
    | .error e => return .error e

def start (run : List Char → Act Unit) (rs : List Redirect) : Act (Except String Plan) := do
  let s ← get
  planAll run { streams := s.streams, inputs := s.inputs } rs

def store (files : List (Nat × String)) (s : Session) : Session :=
  files.foldl (fun s (i, path) =>
    match s.files.writeBytes path (Text.Bytes.toNats (s.buffer i)) with
    | .ok files => { s with files := files }
    | .error _ => s) s

def storeAttached (s : Session) : Session :=
  if s.attached.isEmpty then s
  else
    let s := store s.attached s
    { s with attached := s.attached.filter fun a => s.openBuffers.contains a.1 }

def leaveInput (p : Plan) (s : Session) : Session :=
  match p.source with
  | some n => { s with inputs := (n, s.input) :: s.inputs.filter (·.1 != n) }
  | none => s

/-- Runs `act` with redirected streams. One that cannot be made is reported, and `act` is left
out. -/
def within (run : List Char → Act Unit) (rs : List Redirect) (act : Act Unit) : Act Unit := do
  if rs.isEmpty then return ← act
  match ← start run rs with
  | .error message =>
    Act.complain message
    Act.setStatus 2
  | .ok p =>
    let before := (← get).inputs.filter fun i => p.own.contains i.1
    modify fun s => { s with inputs := p.inputs }
    Act.always (Act.withStreams p.streams p.input (Act.always act (leaveInput p))) fun s =>
      store p.files { s with inputs := before ++ s.inputs.filter fun i => !p.own.contains i.1 }

def keep (run : List Char → Act Unit) (rs : List Redirect) : Act Unit := do
  match ← start run rs with
  | .error message => Act.fail message
  | .ok p =>
    modify fun s =>
      { s with
        streams := p.streams
        inputs := p.inputs
        input := p.input.getD s.input
        attached := p.files ++ s.attached }

end Redirect

end FixGrader.Shell
