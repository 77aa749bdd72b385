import FixGrader.Text.Blank
import FixGrader.Text.Utf8

namespace FixGrader

/-- Why a file cannot be read as text. -/
inductive FileFault where
  | missing
  | notDirectory
  | isDirectory
  | nameTooLong
  | notText
  deriving DecidableEq, Repr

def FileFault.message : FileFault → String
  | missing => "No such file or directory (os error 2)"
  | notDirectory => "Not a directory (os error 20)"
  | isDirectory => "Is a directory (os error 21)"
  | nameTooLong => "File name too long (os error 36)"
  | notText => "stream did not contain valid UTF-8"

def FileFault.decode (bytes : List Nat) : Except FileFault String :=
  match Text.Utf8.decode? bytes with
  | some text => .ok text
  | none => .error .notText

inductive FileNode where
  | directory
  | file (bytes : List Nat) (executable : Bool)
  | program (name : String)
  | link (target : List String)
  deriving DecidableEq, Repr, Inhabited

/-- What is at each path; a path is the list of its names. -/
structure FileTree where
  nodes : List (List String × FileNode)
  workDir : List String
  deriving Inhabited

namespace FileTree

def maxNameSize : Nat := 255

def node? (t : FileTree) (path : List String) : Option FileNode :=
  match t.nodes.find? (·.1 == path) with
  | some (_, node) => some node
  | none =>
    if path.isPrefixOf t.workDir || t.nodes.any (path.isPrefixOf ·.1) then some .directory else none

def walk (t : FileTree) (path : List String) : List String → Except FileFault (List String)
  | [] => .ok path
  | name :: names =>
    match t.node? path with
    | some .directory =>
      if name == "" || name == "." then t.walk path names
      else if name == ".." then t.walk path.dropLast names
      else if maxNameSize < Text.Utf8.size name then .error .nameTooLong
      else
        match t.node? (path ++ [name]) with
        | none => .error .missing
        | some (.link target) => t.walk target names
        | some _ => t.walk (path ++ [name]) names
    | _ => .error .notDirectory

def names (path : String) : List String :=
  (Text.splitAt '/' path.toList).map String.ofList

def pathSize : Nat := 4096

def resolve (t : FileTree) (path : String) : Except FileFault (List String) :=
  if pathSize ≤ Text.Utf8.size path then .error .nameTooLong else
  match names path with
  | [""] => .error .missing
  | "" :: rest => t.walk [] rest
  | names => t.walk t.workDir names

def exists? (t : FileTree) (path : String) : Bool := (t.resolve path).isOk

def readBytes (t : FileTree) (path : String) : Except FileFault (List Nat) := do
  match t.node? (← t.resolve path) with
  | some (.file bytes _) => return bytes
  | some (.program _) => return [0x7F]
  | _ => .error .isDirectory

def readText (t : FileTree) (path : String) : Except FileFault String := do
  FileFault.decode (← t.readBytes path)

def isExecutable (t : FileTree) (path : String) : Bool :=
  match t.resolve path with
  | .ok names =>
    match t.node? names with
    | some (.file _ executable) => executable
    | some (.program _) => true
    | _ => false
  | .error _ => false

def children (t : FileTree) (path : List String) : List String :=
  let below := (t.workDir :: t.nodes.map (·.1)).filterMap fun p =>
    if path.isPrefixOf p then (p.drop path.length).head? else none
  below.eraseDups.mergeSort fun a b => a ≤ b

def enter (t : FileTree) (path : String) : Except FileFault FileTree := do
  let names ← t.resolve path
  match t.node? names with
  | some .directory => return { t with workDir := names }
  | _ => .error .notDirectory

/-- Where the last name of `path` stands; its directory exists, and a link is not followed. -/
def spot (t : FileTree) (path : String) : Except FileFault (List String) := do
  let parts := names path
  let last := parts.getLastD ""
  if last == "" || last == "." || last == ".." then t.resolve path
  else
    let dir := "/".intercalate parts.dropLast
    let dir ← t.resolve (if parts.length ≤ 1 then "." else dir ++ "/.")
    return dir ++ [last]

def place (t : FileTree) (path : String) : Except FileFault (List String) :=
  match t.resolve path with
  | .ok names => .ok names
  | .error _ => t.spot path

/-- Gives the file at `path` the content `bytes`, and makes it if its directory exists. -/
def writeBytes (t : FileTree) (path : String) (bytes : List Nat) : Except FileFault FileTree := do
  let names ← t.place path
  match t.node? names with
  | some .directory => .error .isDirectory
  | some (.file _ executable) =>
    let replace (n : List String × FileNode) :=
      if n.1 == names then (n.1, FileNode.file bytes executable) else n
    return { t with nodes := t.nodes.map replace }
  | _ => return { t with nodes := t.nodes ++ [(names, .file bytes false)] }

def put (t : FileTree) (path : List String) (node : FileNode) : FileTree :=
  if t.nodes.any (·.1 == path) then
    { t with nodes := t.nodes.map fun n => if n.1 == path then (path, node) else n }
  else { t with nodes := t.nodes ++ [(path, node)] }

/-- Takes away what is at a path and below it; the directory that held it stays. -/
def remove (t : FileTree) (path : List String) : FileTree :=
  let rest := t.nodes.filter fun n => !path.isPrefixOf n.1
  ({ t with nodes := rest } : FileTree).put path.dropLast .directory

def graft (t : FileTree) (source target : List String) : FileTree :=
  let moved := t.nodes.filterMap fun n =>
    if source.isPrefixOf n.1 then some (target ++ n.1.drop source.length, n.2) else none
  let moved := if t.node? source == some .directory then (target, .directory) :: moved else moved
  moved.foldl (fun t n => t.put n.1 n.2) t

end FileTree

end FixGrader
