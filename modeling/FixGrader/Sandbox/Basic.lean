import FixGrader.Sandbox.DenyList
import FixGrader.Tool.Command
import FixGrader.Tool.Signal

namespace FixGrader

/-- `unavailable` is a fault of the sandbox, not of the snippet. -/
inductive SandboxOutcome where
  | passed (message : String)
  | rejected (message : String)
  | unavailable (message : String)
  deriving DecidableEq, Repr, Inhabited

namespace SandboxOutcome

def isPassed : SandboxOutcome → Bool
  | passed _ => true
  | _ => false

def message : SandboxOutcome → String
  | passed m | rejected m | unavailable m => m

end SandboxOutcome

namespace Sandbox

def deniedMessage : String :=
  "Sandbox detected disallowed system operation during execution."

def passedMessage : String := "Sandbox compilation succeeded."

/-- A program that parses the file named by its first argument. A `return` outside of a function is
accepted. -/
def checkScript : String :=
"import ast, sys
path = sys.argv[1]
with open(path, encoding='utf-8') as fh:
    source = fh.read()
try:
    ast.parse(source, path)
except SyntaxError as exc:
    print(f'SyntaxError: \x7bexc.msg\x7d (line \x7bexc.lineno\x7d)', file=sys.stderr)
    sys.exit(1)
"

/-- All that the interpreter on the host sees of the environment. -/
def interpreterEnv : List (String × String) :=
  [("PATH", "/usr/local/bin:/usr/bin:/bin"), ("LANG", "C.UTF-8")]

def hostCommand (python dir file : String) : Command :=
  { program := python
    args := ["-I", "-S", "-c", checkScript, file]
    env := interpreterEnv
    workDir := some dir }

def hostLimits (s : SandboxSettings) : Limits :=
  { seconds := s.seconds, memoryMb := some s.memoryMb, cpuSeconds := some s.cpuSeconds }

def mountPoint : String := "/sandbox"

def processLimit : Nat := 64

/-- The options that isolate the container called `name`, which sees `dir` at the mount point. -/
def containerOptions (s : SandboxSettings) (name dir : String) : List String :=
  ["--rm", "--name", name, "--network", "none", "--memory", s!"{s.memoryMb}m",
   "--cpu-shares", s!"{s.cpuShares}", "--pids-limit", s!"{processLimit}", "--read-only",
   "-v", s!"{dir}:{mountPoint}:ro"]

def containerCommand (s : SandboxSettings) (runtime name dir fileName : String) : Command :=
  { program := runtime
    args := "run" :: containerOptions s name dir ++
      [s.image, "python", "-I", "-S", "-c", checkScript, s!"{mountPoint}/{fileName}"] }

def removalCommand (runtime name : String) : Command :=
  { program := runtime, args := ["rm", "-f", name] }

def removalLimits : Limits := { seconds := 10 }

def compilationFailed (o : RunOutcome) : SandboxOutcome :=
  .rejected s!"Sandbox compilation failed: {o.diagnostic}"

def timedOut (seconds : UInt64) : SandboxOutcome :=
  .rejected s!"Sandbox timed out after {seconds}s"

def hostVerdict (seconds : UInt64) (o : RunOutcome) : SandboxOutcome :=
  match o.status with
  | .exited 0 => .passed passedMessage
  | .exited _ => compilationFailed o
  | .timedOut => timedOut seconds
  | .signaled n => .rejected s!"Sandbox process killed by {Signal.name n}"

/-- Exit codes by which the runtime says that the container did not start. -/
def runtimeFailureCodes : List Int := [125, 126, 127]

def containerVerdict (seconds : UInt64) (o : RunOutcome) : SandboxOutcome :=
  match o.status with
  | .exited 0 => .passed passedMessage
  | .exited code =>
    if runtimeFailureCodes.contains code then
      .unavailable s!"Sandbox unavailable: container launch failed ({code}): {o.diagnostic}"
    else compilationFailed o
  | .timedOut => timedOut seconds
  | .signaled n =>
    .unavailable s!"Sandbox unavailable: container runtime killed by {Signal.name n}"

end Sandbox

end FixGrader
