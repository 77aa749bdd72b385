import FixGrader.Files

namespace FixGrader

/-- How snippets are checked in isolation, if at all. -/
inductive SandboxDriver where
  | disabled
  | host
  | container
  deriving DecidableEq, Repr, Inhabited

namespace SandboxDriver

def name : SandboxDriver → String
  | disabled => "disabled"
  | host => "local"
  | container => "containerized"

def ofName? : String → Option SandboxDriver
  | "disabled" | "none" => some disabled
  | "local" => some host
  | "containerized" | "container" | "docker" => some container
  | _ => none

end SandboxDriver

structure SemgrepSettings where
  enabled : Bool := true
  binary : String := "semgrep"
  rules : List String := ["./files/semgrep"]
  seconds : UInt64 := 10
  deriving DecidableEq, Repr, Inhabited

structure BanditSettings where
  enabled : Bool := true
  binary : String := "bandit"
  seconds : UInt64 := 10
  severity : String := "LOW"
  confidence : String := "LOW"
  deriving DecidableEq, Repr, Inhabited

structure AnalyzerSettings where
  semgrep : SemgrepSettings := {}
  bandit : BanditSettings := {}
  deriving DecidableEq, Repr, Inhabited

structure SandboxSettings where
  driver : SandboxDriver := .host
  seconds : UInt64 := 10
  python : String := "python3"
  runtime : String := "docker"
  image : String := "python:3.12-slim"
  memoryMb : UInt32 := 256
  cpuShares : UInt32 := 256
  cpuSeconds : UInt32 := 5
  denyPatterns : Option (List String) := none
  deriving DecidableEq, Repr, Inhabited

/-- The points of each band, and the most that a snippet gets that the sandbox did not pass. -/
structure ScorePolicy where
  full : UInt32 := 100
  mixed : UInt32 := 20
  zero : UInt32 := 0
  ceiling : UInt32 := 40
  deriving DecidableEq, Repr, Inhabited

structure Settings where
  logLevel : String := "info"
  redisUrl : String := "redis://localhost:6379"
  queueKey : String := "scoring:queue"
  analyzers : AnalyzerSettings := {}
  sandbox : SandboxSettings := {}
  scoring : ScorePolicy := {}
  stopSeconds : UInt64 := 5
  deriving DecidableEq, Repr, Inhabited

/-- Why a value is not accepted. -/
inductive ValueFault where
  | noDigits
  | badDigit
  | tooLarge
  | notBoolean
  | unknownDriver (name : String)
  | aboveHundred
  | bandsNotDescending
  | zeroTime
  deriving DecidableEq, Repr

def ValueFault.message : ValueFault → String
  | noDigits => "cannot parse integer from empty string"
  | badDigit => "invalid digit found in string"
  | tooLarge => "number too large to fit in target type"
  | notBoolean => "provided string was not \x60true\x60 or \x60false\x60"
  | unknownDriver name =>
    s!"unknown sandbox driver '{name}' (expected local, containerized or disabled)"
  | aboveHundred => "must be at most 100"
  | bandsNotDescending => "score bands must satisfy full_score > partial_score > zero_score"
  | zeroTime => "must be greater than zero"

inductive SettingsError where
  | unreadable (path : String) (fault : FileFault)
  | malformed
  | badPattern (text : String)
  | invalid (key : String) (fault : ValueFault)
  deriving DecidableEq, Repr

def SettingsError.message : SettingsError → String
  | unreadable path fault => s!"Failed to read config file {path}: {fault.message}"
  | malformed => "Failed to parse config file"
  | badPattern text => s!"Invalid deny pattern '{text}'"
  | invalid key fault => s!"Invalid value for {key}: {fault.message}"

end FixGrader
