import FixGrader.Shell.Filter
import FixGrader.Shell.Permission

namespace FixGrader.Shell.FileProgram

def onPaths (paths : List String)
    (use : String → FileTree → Except String FileTree) : Act Nat := do
  let mut status := 0
  for path in paths do
    let s ← get
    match use path s.files with
    | .ok files => set { s with files := files }
    | .error problem =>
      Act.tell problem
      status := 1
  return status

def touch (args : List String) : Act Nat := do
  let (options, paths) := Argument.split args
  if paths.isEmpty then Argument.misuse "missing file operand"
  else
    onPaths paths fun path files =>
      if files.exists? path || Argument.has options "c" then .ok files
      else (files.writeBytes path []).mapError fun e =>
        s!"cannot touch '{path}': {Filter.faultText e}"

def bare (path : String) : String :=
  let chars := Text.dropEndWhile (· == '/') path.toList
  if chars.isEmpty then path else String.ofList chars

def ancestors (path : String) : List String :=
  let parts := FileTree.names (bare path)
  ((List.range parts.length).map fun n => "/".intercalate (parts.take (n + 1))).filter (· != "")

def makeDirectory (path : String) (files : FileTree) : Except String FileTree :=
  let fail (cause : String) : Except String FileTree :=
    .error s!"cannot create directory '{path}': {cause}"
  if files.exists? path then fail "File exists"
  else
    match files.spot (bare path) with
    | .error e => fail (Filter.faultText e)
    | .ok names => .ok (files.put names .directory)

def makeDirectories (args : List String) : Act Nat := do
  let (options, paths) := Argument.split args
  let paths := if Argument.has options "m" then paths.drop 1 else paths
  if paths.isEmpty then Argument.misuse "missing operand"
  else if Argument.has options "p" then
    onPaths paths fun path files =>
      (ancestors path).foldlM (fun files dir =>
        match files.resolve (dir ++ "/.") with
        | .ok _ => .ok files
        | .error _ => makeDirectory dir files) files
  else onPaths paths makeDirectory

def removeDirectories (args : List String) : Act Nat := do
  let (_, paths) := Argument.split args
  if paths.isEmpty then Argument.misuse "missing operand"
  else
    onPaths paths fun path files =>
      let fail (cause : String) : Except String FileTree :=
        .error s!"failed to remove '{path}': {cause}"
      match files.resolve path with
      | .error e => fail (Filter.faultText e)
      | .ok names =>
        if files.node? names != some .directory then fail "Not a directory"
        else if !(files.children names).isEmpty then fail "Directory not empty"
        else .ok (files.remove names)

def remove (args : List String) : Act Nat := do
  let (options, paths) := Argument.split args
  let force := Argument.has options "f"
  if paths.isEmpty then
    if force then return 0 else Argument.misuse "missing operand"
  else
    onPaths paths fun path files =>
      let fail (cause : String) : Except String FileTree :=
        .error s!"cannot remove '{path}': {cause}"
      match files.spot (bare path) with
      | .error e => if force then .ok files else fail (Filter.faultText e)
      | .ok names =>
        match files.node? names with
        | none => if force then .ok files else fail "No such file or directory"
        | some .directory =>
          if Argument.has options "rR" then .ok (files.remove names) else fail "Is a directory"
        | some _ => .ok (files.remove names)

/-- Where a copy of `source` comes to stand: in `target` if that is a directory. -/
def destination (files : FileTree) (source target : String) : String :=
  match files.resolve target with
  | .ok names =>
    if files.node? names == some .directory then
      bare target ++ "/" ++ (FileTree.names (bare source)).getLastD ""
    else target
  | .error _ => target

def transfer (options : List String) (moves : Bool) (target source : String)
    (files : FileTree) : Except String FileTree := do
  let path := destination files source target
  let from' ← (files.spot (bare source)).mapError fun e =>
    s!"cannot stat '{source}': {Filter.faultText e}"
  let verb := if moves then s!"cannot move '{source}' to '{path}'" else
    s!"cannot create regular file '{path}'"
  match files.node? from' with
  | none => .error s!"cannot stat '{source}': No such file or directory"
  | some node =>
    if node == .directory && !moves && !Argument.has options "rRa" then
      .error s!"-r not specified; omitting directory '{source}'"
    else
      let goal ← (files.place (bare path)).mapError fun e => s!"{verb}: {Filter.faultText e}"
      if goal == from' then .error s!"'{source}' and '{path}' are the same file"
      else
        let copied := files.graft from' goal
        return if moves then copied.remove from' else copied

def transferAll (moves : Bool) (args : List String) : Act Nat := do
  let (options, paths) := Argument.split args
  match paths.reverse with
  | [] => Argument.misuse "missing file operand"
  | [source] => Argument.misuse s!"missing destination file operand after '{source}'"
  | [target, source] => onPaths [source] (transfer options moves target)
  | target :: sources =>
    let files := (← get).files
    match files.resolve target with
    | .error e =>
      Act.tell s!"target '{target}': {Filter.faultText e}"
      return 1
    | .ok names =>
      if files.node? names == some .directory then
        onPaths sources.reverse (transfer options moves target)
      else
        Act.tell s!"target '{target}': Not a directory"
        return 1

/-- Gives a file another name; what the new name leads to is found when the link is made. -/
def link (args : List String) : Act Nat := do
  let (options, paths) := Argument.split args
  match paths with
  | [] => Argument.misuse "missing file operand"
  | source :: rest =>
    let target := rest.headD "."
    onPaths [source] fun source files => do
      let path := destination files source target
      let kind := if Argument.has options "s" then "symbolic" else "hard"
      let told (names : List String) : String := "/" ++ "/".intercalate names
      let fault (cause : String) : String := s!"failed to create {kind} link '{path}': {cause}"
      let goal ← (files.spot (bare path)).mapError fun e => fault (Filter.faultText e)
      if (files.node? goal).isSome && !Argument.has options "f" then .error (fault "File exists")
      else
        match files.place source with
        | .ok names =>
          if Argument.has options "s" then return files.put goal (.link names)
          else if files.exists? source then return files.graft names goal
          else .error s!"failed to access '{source}': No such file or directory"
        | .error e => .error s!"failed to access '{told [source]}': {Filter.faultText e}"

def modeOf : FileNode → Nat
  | .file _ false => 0o644
  | _ => 0o755

def setMode (mode : Nat) (names : List String) (files : FileTree) : FileTree :=
  match files.node? names with
  | some (.file bytes _) => files.put names (.file bytes (mode &&& 0o111 != 0))
  | _ => files

def changeModes (args : List String) : Act Nat := do
  let (options, rest) := args.partition fun a => a == "-R" || a == "-f" || a == "-v"
  match rest with
  | [] => Argument.misuse "missing operand"
  | [words] => Argument.misuse s!"missing operand after '{words}'"
  | words :: paths =>
    let others := Permission.all - (← get).mask
    let change (mode : Nat) : Option Nat :=
      (Permission.octal? words).orElse fun _ => Permission.changed? others mode words
    if (change 0).isNone then Argument.misuse s!"invalid mode: '{words}'"
    else
      onPaths paths fun path files =>
        match files.resolve path with
        | .error e =>
          if options.contains "-f" then .ok files
          else .error s!"cannot access '{path}': {Filter.faultText e}"
        | .ok names =>
          let mode := (change (((files.node? names).map modeOf).getD 0)).getD 0
          .ok (setMode mode names files)

/-- What `dd` is asked for: a number of blocks of a size, some of which are skipped. -/
structure Blocks where
  source : Option String := none
  target : Option String := none
  size : Nat := 512
  count : Option Nat := none
  skip : Nat := 0
  upper : Bool := false
  quiet : Bool := false

def Blocks.ofArgs (b : Blocks) : List String → Except String Blocks
  | [] => .ok b
  | arg :: rest =>
    let name := arg.toList.takeWhile (· != '=')
    let value := String.ofList (arg.toList.drop (name.length + 1))
    let number (use : Nat → Blocks) : Except String Blocks :=
      match Argument.size? value with
      | some n => Blocks.ofArgs (use n) rest
      | none => .error s!"invalid number: '{value}'"
    match String.ofList name with
    | "if" => ofArgs { b with source := some value } rest
    | "of" => ofArgs { b with target := some value } rest
    | "bs" | "ibs" => number fun n => { b with size := n }
    | "obs" => ofArgs b rest
    | "count" => number fun n => { b with count := some n }
    | "skip" => number fun n => { b with skip := n }
    | "conv" => ofArgs { b with upper := value == "ucase" } rest
    | "status" => ofArgs { b with quiet := value == "none" } rest
    | _ => .error s!"unrecognized operand '{arg}'"

def copyBlocks (args : List String) : Act Nat := do
  match Blocks.ofArgs {} args with
  | .error problem => Argument.misuse problem
  | .ok b =>
    match ← Filter.readFile (b.source.getD "-") with
    | .error fault =>
      let path := b.source.getD "-"
      Act.tell s!"failed to open '{path}': {Filter.faultText fault}"
      return 1
    | .ok input =>
      let before := b.skip * b.size
      let text ← match b.count with
        | some n => Act.firstBytes (before + n * b.size) input
        | none => Act.whole input
      let text := text.drop before
      let text := if b.upper then text.map Char.toUpper else text
      let size := max b.size 1
      let (full, part) := (text.length / size, min 1 (text.length % size))
      let told := s!"{full}+{part} records"
      let status ← match b.target with
        | none => do
          Act.print (String.ofList text)
          pure 0
        | some path =>
          onPaths [path] fun path files =>
            (files.writeBytes path (Text.Bytes.toNats (String.ofList text))).mapError fun e =>
              s!"failed to open '{path}': {Filter.faultText e}"
      if !b.quiet then
        Act.write 2 s!"{told} in\n{told} out\n{text.length} bytes copied, 0 s, 0.0 kB/s\n"
      return status

def tee (args : List String) : Act Nat := do
  let (options, paths) := Argument.split args
  let input ← Act.takeInput
  let bytes := Text.Bytes.toNats (String.ofList input.text)
  let status ← onPaths paths fun path files => do
    let before := if Argument.has options "a" then (files.readBytes path).toOption.getD [] else []
    (files.writeBytes path (before ++ bytes)).mapError fun e => s!"{path}: {Filter.faultText e}"
  Filter.pass id input
  return status

end FixGrader.Shell.FileProgram
