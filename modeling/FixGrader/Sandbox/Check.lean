import FixGrader.Sandbox.Basic
import FixGrader.Tool.Host

namespace FixGrader

/-- Where snippets are checked. -/
inductive SandboxKind where
  | host
  | container
  deriving DecidableEq, Repr

def SandboxKind.driver : SandboxKind → SandboxDriver
  | host => .host
  | container => .container

structure Sandbox where
  kind : SandboxKind
  settings : SandboxSettings
  deny : DenyList

namespace Sandbox

/-- The sandbox that the settings ask for, if any, or the first denied pattern that cannot be
read. -/
def ofSettings (s : SandboxSettings) : Except String (Option Sandbox) :=
  match s.driver with
  | .disabled => .ok none
  | .host => (DenyList.ofSettings s DenyList.hostPatterns).map fun d => some ⟨.host, s, d⟩
  | .container =>
    (DenyList.ofSettings s DenyList.containerPatterns).map fun d => some ⟨.container, s, d⟩

/-- The program that the check launches. -/
def program (b : Sandbox) : String :=
  match b.kind with
  | .host => b.settings.python
  | .container => b.settings.runtime

def notFound (b : Sandbox) : SandboxOutcome :=
  match b.kind with
  | .host => .unavailable s!"Sandbox unavailable: interpreter '{b.program}' not found"
  | .container => .unavailable s!"Sandbox unavailable: container runtime '{b.program}' not found"

def hostCheck (h : Host) (b : Sandbox) (python : String) (s : Staged) : Work SandboxOutcome := do
  match ← Work.launch h (hostCommand python s.dir s.file) (hostLimits b.settings) with
  | .error f => return .unavailable s!"Sandbox unavailable: {f.message}"
  | .ok o => return hostVerdict b.settings.seconds o

/-- A container that ran out of time is removed, whatever comes of that. -/
def containerCheck (h : Host) (b : Sandbox) (runtime : String) (s : Staged) :
    Work SandboxOutcome := do
  let name := "scoring-" ++ (← Work.freshName h)
  let command := containerCommand b.settings runtime name s.dir Staged.fileName
  match ← Work.launch h command { seconds := b.settings.seconds } with
  | .error f => return .unavailable s!"Sandbox unavailable: container launch failed: {f.message}"
  | .ok o =>
    if o.status = .timedOut then
      let _ ← Work.launch h (removalCommand runtime name) removalLimits
    return containerVerdict b.settings.seconds o

def check (h : Host) (b : Sandbox) (located : String) (s : Staged) : Work SandboxOutcome :=
  match b.kind with
  | .host => b.hostCheck h located s
  | .container => b.containerCheck h located s

def run (h : Host) (b : Sandbox) (code : String) : Work (Except Failure SandboxOutcome) := do
  if (b.deny.find? code).isSome then return .ok (.rejected deniedMessage)
  match h.locate b.program with
  | none => return .ok b.notFound
  | some located =>
    match ← Work.withStaged h "sandbox-" code (b.check h located) with
    | .error fault => return .error ("Failed to stage sandbox snippet" :: fault.failure)
    | .ok outcome => return .ok outcome

end Sandbox

end FixGrader
