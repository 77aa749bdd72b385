import FixGrader.Text.Utf8
import FixGrader.Tool.Command

namespace FixGrader

/-- A staged snippet. Its directory holds one file, whose text is `code`. -/
structure Staged where
  dir : String
  code : String
  deriving DecidableEq, Repr, Inhabited

namespace Staged

def fileName : String := "submission.py"

def file (s : Staged) : String := s.dir ++ "/" ++ fileName

end Staged

/-- A launch, with the copies that existed while it ran. -/
structure Launch where
  command : Command
  limits : Limits
  time : Nat
  staged : List Staged
  deriving DecidableEq, Repr, Inhabited

def maxNameSize : Nat := 255

/-- A directory whose name is `tag` and a suffix of six characters can be made. -/
def isStagingTag (tag : String) : Bool :=
  !tag.contains '/' && !tag.contains '\x00' && Text.Utf8.size tag + 6 ≤ maxNameSize

/-- The text of the staged file that an argument points at, or whose directory it names. -/
def Launch.stagedCode? (l : Launch) : Option String :=
  (l.staged.find? fun s => l.command.args.any (Text.contains · s.dir)).map Staged.code

/-- What a launch comes to, and after how many milliseconds. -/
structure Reply where
  result : Except Failure RunOutcome
  millis : Nat := 0

inductive StagingFault where
  | creation (cause : Failure)
  | writing (file : String) (cause : Failure)
  deriving DecidableEq, Repr

def StagingFault.failure : StagingFault → Failure
  | creation cause => "Failed to create snippet directory" :: cause
  | writing file cause => s!"Failed to write snippet to {file}" :: cause

/-- A machine. `reply` may depend on all launches before, and `staging` on the number of directories
made before. -/
structure Host where
  locate : String → Option String
  hasPath : String → Bool
  tempDir : String
  suffix : Nat → String
  staging : Nat → Option StagingFault
  uuid : Nat → String
  reply : List Launch → Command → Limits → Reply

/-- What scoring has changed on a host. -/
structure Trace where
  clock : Nat := 0
  unwritten : List String := []
  staged : List Staged := []
  dirs : Nat := 0
  names : Nat := 0
  launches : List Launch := []
  deriving Inhabited

abbrev Work := StateM Trace

namespace Work

def makeDir (h : Host) (tag : String) (fault : Option StagingFault) :
    Work (Except StagingFault String) := fun t =>
  let numbered := { t with dirs := t.dirs + 1 }
  match fault with
  | some (.creation cause) => (.error (.creation cause), numbered)
  | _ =>
    if !isStagingTag tag then (.error (.creation []), numbered) else
    let dir := s!"{h.tempDir}/{tag}{h.suffix t.dirs}"
    (.ok dir, { numbered with unwritten := dir :: t.unwritten })

/-- Writes `code` to an empty directory, unless there is a `fault`. -/
def writeCopy (dir code : String) (fault : Option StagingFault) :
    Work (Except StagingFault Staged) := fun t =>
  match fault with
  | some fault => (.error fault, t)
  | none =>
    let s : Staged := ⟨dir, code⟩
    (.ok s, { t with unwritten := t.unwritten.erase dir, staged := s :: t.staged })

def removeDir (dir : String) : Work Unit := fun t =>
  ((), { t with unwritten := t.unwritten.erase dir })

/-- Makes a directory that holds `code`. One that cannot be written to is removed again. -/
def stage (h : Host) (tag code : String) : Work (Except StagingFault Staged) := do
  let fault := h.staging (← get).dirs
  match ← makeDir h tag fault with
  | .error fault => return .error fault
  | .ok dir =>
    match ← writeCopy dir code fault with
    | .error fault =>
      removeDir dir
      return .error fault
    | .ok s => return .ok s

def discard (s : Staged) : Work Unit := fun t => ((), { t with staged := t.staged.erase s })

def withStaged {α : Type} (h : Host) (tag code : String) (use : Staged → Work α) :
    Work (Except StagingFault α) := do
  match ← stage h tag code with
  | .error fault => return .error fault
  | .ok s =>
    let a ← use s
    discard s
    return .ok a

def launch (h : Host) (c : Command) (l : Limits) : Work (Except Failure RunOutcome) := fun t =>
  let r := h.reply t.launches c l
  (r.result, { t with
    clock := t.clock + r.millis
    launches := t.launches ++ [⟨c, l, t.clock, t.staged⟩] })

def freshName (h : Host) : Work String := fun t =>
  (h.uuid t.names, { t with names := t.names + 1 })

end Work

end FixGrader
