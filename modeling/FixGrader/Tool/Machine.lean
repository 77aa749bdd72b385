import FixGrader.Shell.Process
import FixGrader.Tool.Host

namespace FixGrader

structure Machine where
  files : FileTree
  environment : List (String × String)

namespace Machine

def systemNodes : List (List String × FileNode) :=
  let directories := [["usr", "bin"], ["usr", "sbin"], ["usr", "lib"], ["usr", "share"],
    ["usr", "local", "bin"], ["usr", "local", "sbin"], ["usr", "local", "lib"], ["etc"], ["dev"],
    ["home"], ["mnt"], ["opt"], ["proc"], ["root"], ["run"], ["srv"], ["sys"], ["tmp"],
    ["var", "tmp"], ["var", "log"], ["var", "lib"]]
  let links := ["bin", "sbin", "lib"]
  directories.map (·, .directory) ++ links.map (fun n => ([n], .link ["usr", n])) ++
    Shell.Utility.names.map (fun n => (["usr", "bin", n], .program n)) ++
    ["null", "zero"].map fun n => (["dev", n], .file [] false)

def searchPath (m : Machine) : String :=
  (m.environment.lookup "PATH").getD Shell.Image.defaultSearch

/-- The absolute path of a program that the machine has. A relative path of several parts is cleaned
first, so that blank parts and dots inside and at its end do not count. -/
def locate (m : Machine) (program : String) : Option String :=
  let dir := "/" ++ "/".intercalate m.files.workDir
  let found (name : String) : Option String :=
    match Shell.Image.locate m.files m.searchPath name with
    | .ok (path, _) => some (if path.startsWith "/" then path else dir ++ "/" ++ path)
    | .error _ => none
  if program.startsWith "/" then found program
  else
    let names := FileTree.names program
    let inner := (names.drop 1).filter fun n => !n.isEmpty && n != "."
    if names.length ≤ 1 then found program
    else if inner.isEmpty then none
    else found (dir ++ "/" ++ "/".intercalate (names.take 1 ++ inner))

def variableValues (m : Machine) (c : Command) : List (String × String) :=
  if c.env.isEmpty then m.environment
  else
    let latest := c.env.foldl (fun vs v => vs.filter (·.1 != v.1) ++ [v]) []
    latest.mergeSort fun a b => a.1 ≤ b.1

def plainSearch : String := "/bin:/usr/bin"

def spellNames (files : FileTree) : FileTree :=
  { nodes := files.nodes.map fun n => (n.1.map Text.Bytes.ofText, n.2)
    workDir := files.workDir.map Text.Bytes.ofText }

structure Allowance where
  millis : Nat
  memoryMb : Option UInt32 := none
  cpuSeconds : Option UInt32 := none

def Allowance.isLimited (a : Allowance) : Bool := a.memoryMb.isSome || a.cpuSeconds.isSome

/-- The process of a command at its start. The working directory is entered before the program is
looked for. -/
def start (m : Machine) (c : Command) (a : Allowance) :
    Except Shell.StartFault (Shell.Session × Shell.Image) := do
  let texts := c.program :: c.args ++ c.workDir.toList ++ c.env.flatMap fun (k, v) => [k, v]
  if texts.any fun s => s.contains '\x00' then .error .nulByte
  let files := spellNames m.files
  let files ← match c.workDir with
    | none => pure files
    | some dir => (files.enter (Text.Bytes.ofText dir)).mapError .file
  let vars := (m.variableValues c).map fun (k, v) => (Text.Bytes.ofText k, Text.Bytes.ofText v)
  let path := if c.env.isEmpty then m.searchPath else (vars.lookup "PATH").getD plainSearch
  let bare := !c.program.contains '/'
  let scripts := a.isLimited || (bare && !c.env.isEmpty)
  let image ← Shell.Image.find files path scripts (Text.Bytes.ofText c.program)
    (c.args.map Text.Bytes.ofText)
  let session : Shell.Session :=
    { name := image.name
      bindings := vars.map fun (k, v) => { name := k, value := v, exported := true }
      files := files
      deadline := a.millis
      ceilings :=
        { memory := a.memoryMb.map fun n => n.toNat * 1024
          time := a.cpuSeconds.map (·.toNat) } }
  return (session, image)

/-- How a process ends, and after how many milliseconds. One that computes without end is stopped by
the limit on computing time if that comes before the deadline. -/
def finish (a : Allowance) (ended : Except Shell.Halt Unit) (s : Shell.Session) : Reply :=
  let outcome (status : ExitStatus) : Except Failure RunOutcome :=
    .ok ⟨status, Text.Bytes.toText (s.buffer 0), Text.Bytes.toText (s.buffer 1)⟩
  let late : Reply := ⟨.ok ⟨.timedOut, "", ""⟩, a.millis⟩
  let last := max s.clock s.awaited
  match ended with
  | .error .overdue => late
  | .error (.exhausted signal) => ⟨outcome (.signaled signal), last⟩
  | .error .endless =>
    match s.computing? with
    | some millis => if millis < a.millis then ⟨outcome (.signaled 9), millis⟩ else late
    | none => late
  | .error (.killed signal) => if a.millis ≤ last then late else ⟨outcome (.signaled signal), last⟩
  | .error .exit | .error .back | .error (.leave ..) | .ok () =>
    if a.millis ≤ last then late else ⟨outcome (.exited s.status), last⟩

def run (m : Machine) (c : Command) (a : Allowance) : Reply :=
  match m.start c a with
  | .error fault => ⟨.error [s!"Failed to spawn {c.program}", fault.message], 0⟩
  | .ok (session, image) =>
    let (ended, s) := (Shell.perform Shell.maxDepth (.image image)).run session
    finish a ended s

def suffix (n : Nat) : String :=
  let digits := Nat.toDigits 10 n
  String.ofList (List.replicate (6 - digits.length) '0' ++ digits)

def withWorkDir (m : Machine) (c : Command) : Machine :=
  match c.workDir with
  | some dir =>
    let node := ((FileTree.names dir).filter (!·.isEmpty), FileNode.directory)
    { m with files := { m.files with nodes := node :: m.files.nodes } }
  | none => m

def host (m : Machine) (uuid : Nat → String) : Host where
  locate := m.locate
  hasPath := m.files.exists?
  tempDir := "/tmp"
  suffix := suffix
  staging _ := none
  uuid := uuid
  reply _ c l := (m.withWorkDir c).run c ⟨l.seconds.toNat * 1000, l.memoryMb, l.cpuSeconds⟩

end Machine

end FixGrader
