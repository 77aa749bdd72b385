import FixGrader.Files
import FixGrader.Text.Bytes

namespace FixGrader.Shell

inductive StartFault where
  | nulByte
  | file (fault : FileFault)
  | denied
  | unknownFormat
  deriving DecidableEq, Repr

def StartFault.message : StartFault → String
  | nulByte => "nul byte found in provided data"
  | file fault => fault.message
  | denied => "Permission denied (os error 13)"
  | unknownFormat => "Exec format error (os error 8)"

/-- A program of the machine with the name and the arguments that it is started with. -/
structure Image where
  program : String
  name : String
  args : List String
  deriving DecidableEq, Repr

namespace Image

def defaultSearch : String := "/usr/local/sbin:/usr/local/bin:/usr/sbin:/usr/bin:/sbin:/bin"

def check (files : FileTree) (path : String) : Except StartFault FileNode :=
  match files.resolve path with
  | .error fault => .error (.file fault)
  | .ok names =>
    match files.node? names with
    | some (.file bytes true) => .ok (.file bytes true)
    | some (.program name) => .ok (.program name)
    | _ => .error .denied

def search (files : FileTree) (name : String) (fault : StartFault) :
    List String → Except StartFault (String × FileNode)
  | [] => .error fault
  | dir :: dirs =>
    let path := (if dir.isEmpty then "." else dir) ++ "/" ++ name
    match check files path with
    | .ok node => .ok (path, node)
    | .error .denied => search files name .denied dirs
    | .error _ => search files name fault dirs

def locate (files : FileTree) (searchPath name : String) : Except StartFault (String × FileNode) :=
  if name.isEmpty then .error (.file .missing)
  else if name.contains '/' then (check files name).map (name, ·)
  else search files name (.file .missing) ((Text.splitAt ':' searchPath.toList).map String.ofList)

def isGap (c : Char) : Bool := c == ' ' || c == '\t'

def interpreter? (bytes : List Nat) : Option (String × List String) :=
  match (Text.Bytes.ofNats bytes).toList with
  | '#' :: '!' :: rest =>
    let line := (rest.takeWhile (· != '\n')).dropWhile isGap
    let path := line.takeWhile (!isGap ·)
    let arg := Text.dropEndWhile isGap ((line.drop path.length).dropWhile isGap)
    if path.isEmpty then none
    else some (String.ofList path, if arg.isEmpty then [] else [String.ofList arg])
  | _ => none

def maxInterpreters : Nat := 5

def ofNode (files : FileTree) (path : String) :
    (fuel : Nat) → (name : String) → FileNode → List String → Except StartFault Image
  | 0, _, _, _ => .error .unknownFormat
  | fuel + 1, name, node, args =>
    match node with
    | .program program => .ok ⟨program, name, args⟩
    | .file bytes _ =>
      match interpreter? bytes with
      | some (interpreter, extra) => do
        let node ← check files interpreter
        ofNode files interpreter fuel interpreter node (extra ++ path :: args)
      | none => .error .unknownFormat
    | .directory | .link _ => .error .denied

/-- What runs the program `name` with `args`. With `scripts`, a file of unknown format is taken for
a shell script. -/
def find (files : FileTree) (searchPath : String) (scripts : Bool) (name : String)
    (args : List String) : Except StartFault Image := do
  let (path, node) ← locate files searchPath name
  match ofNode files path maxInterpreters name node args with
  | .error .unknownFormat =>
    if scripts then return ⟨"sh", "/bin/sh", path :: args⟩ else .error .unknownFormat
  | result => result

end Image

end FixGrader.Shell
