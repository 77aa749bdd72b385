import FixGrader.Text.Blank

namespace FixGrader

/-- A program to launch. An environment that is not empty replaces the inherited one. -/
structure Command where
  program : String
  args : List String := []
  env : List (String × String) := []
  workDir : Option String := none
  deriving DecidableEq, Repr, Inhabited

namespace Command

def withArgs (c : Command) (args : List String) : Command := { c with args := c.args ++ args }

def withEnv (c : Command) (key value : String) : Command :=
  { c with env := c.env ++ [(key, value)] }

def withWorkDir (c : Command) (dir : String) : Command := { c with workDir := some dir }

def words (c : Command) : List String := c.program :: c.args

end Command

/-- Limits of one launch; the process is killed when the wall-clock time is over. -/
structure Limits where
  seconds : UInt64
  memoryMb : Option UInt32 := none
  cpuSeconds : Option UInt32 := none
  deriving DecidableEq, Repr, Inhabited

inductive ExitStatus where
  | exited (code : Int)
  | timedOut
  | signaled (signal : Int)
  deriving DecidableEq, Repr, Inhabited

structure RunOutcome where
  status : ExitStatus
  stdout : String := ""
  stderr : String := ""
  deriving DecidableEq, Repr, Inhabited

namespace RunOutcome

def exitCode? (o : RunOutcome) : Option Int :=
  match o.status with
  | .exited code => some code
  | _ => none

def isSuccess (o : RunOutcome) : Bool := o.exitCode? == some 0

def diagnostic (o : RunOutcome) : String :=
  let stderr := Text.trim o.stderr
  if stderr.isEmpty then Text.trim o.stdout else stderr

end RunOutcome

abbrev Failure := List String

namespace Failure

def message (f : Failure) : String := ": ".intercalate f

def indent (margin text : String) : String :=
  ("\n" ++ margin).intercalate ((Text.splitAt '\n' text.toList).map String.ofList)

/-- The causes of a failure on lines of their own, numbered if there are several. -/
def causes : Failure → String
  | [] => ""
  | [cause] => "\n    " ++ indent "    " cause
  | causes =>
    String.join (causes.zipIdx.map fun (cause, n) => s!"\n    {n}: " ++ indent "       " cause)

def report : Failure → String
  | [] => ""
  | [description] => description
  | description :: more => description ++ "\n\nCaused by:" ++ causes more

end Failure

end FixGrader
