import FixGrader.Json.Record
import FixGrader.Settings.Basic
import FixGrader.Toml.Reader

namespace FixGrader

/-- What the formats of documents differ in: whether an array may have more items than the record
fields, and what may stand for the value of a driver that is written as a key. -/
structure DocumentForm where
  surplus : Bool
  isUnit : Json → Bool

namespace DocumentForm

def json : DocumentForm := ⟨false, fun j => match j with | .null => true | _ => false⟩

def toml : DocumentForm :=
  ⟨true, fun j => match j with | .object [] | .array [] => true | _ => false⟩

def fields? (f : DocumentForm) (names : List String) : Json → Option Json.Fields
  | .array items =>
    if f.surplus || items.length ≤ names.length then some (names.zip items) else none
  | j => (Json.Shape.mk names 0).fields? j

def driver? (f : DocumentForm) : Json → Option SandboxDriver
  | .string (some name) => SandboxDriver.ofName? name
  | .object [(some name, value)] => if f.isUnit value then SandboxDriver.ofName? name else none
  | _ => none

end DocumentForm

def word32? (j : Json) : Option UInt32 := j.nat32?.map UInt32.ofNat

def word64? (j : Json) : Option UInt64 := (j.nat?.filter (· < UInt64.size)).map UInt64.ofNat

def SemgrepSettings.ofDocument? (f : DocumentForm) (j : Json) : Option SemgrepSettings := do
  let fs ← f.fields? ["enabled", "binary", "rules", "timeout_secs"] j
  let d : SemgrepSettings := {}
  return { enabled := ← fs.getD? "enabled" d.enabled Json.bool?
           binary := ← fs.getD? "binary" d.binary Json.str?
           rules := ← fs.getD? "rules" d.rules (Json.listOf? Json.str?)
           seconds := ← fs.getD? "timeout_secs" d.seconds word64? }

def BanditSettings.ofDocument? (f : DocumentForm) (j : Json) : Option BanditSettings := do
  let fs ← f.fields? ["enabled", "binary", "timeout_secs", "severity", "confidence"] j
  let d : BanditSettings := {}
  return { enabled := ← fs.getD? "enabled" d.enabled Json.bool?
           binary := ← fs.getD? "binary" d.binary Json.str?
           seconds := ← fs.getD? "timeout_secs" d.seconds word64?
           severity := ← fs.getD? "severity" d.severity Json.str?
           confidence := ← fs.getD? "confidence" d.confidence Json.str? }

def AnalyzerSettings.ofDocument? (f : DocumentForm) (j : Json) : Option AnalyzerSettings := do
  let fs ← f.fields? ["semgrep", "bandit"] j
  return { semgrep := ← fs.getD? "semgrep" {} (SemgrepSettings.ofDocument? f)
           bandit := ← fs.getD? "bandit" {} (BanditSettings.ofDocument? f) }

def SandboxSettings.ofDocument? (f : DocumentForm) (j : Json) : Option SandboxSettings := do
  let fs ← f.fields? ["driver", "timeout_secs", "python", "runtime", "image", "memory_mb",
    "cpu_shares", "cpu_secs", "deny_patterns"] j
  let d : SandboxSettings := {}
  return { driver := ← fs.getD? "driver" d.driver f.driver?
           seconds := ← fs.getD? "timeout_secs" d.seconds word64?
           python := ← fs.getD? "python" d.python Json.str?
           runtime := ← fs.getD? "runtime" d.runtime Json.str?
           image := ← fs.getD? "image" d.image Json.str?
           memoryMb := ← fs.getD? "memory_mb" d.memoryMb word32?
           cpuShares := ← fs.getD? "cpu_shares" d.cpuShares word32?
           cpuSeconds := ← fs.getD? "cpu_secs" d.cpuSeconds word32?
           denyPatterns := ← fs.find? "deny_patterns" (Json.listOf? Json.str?) }

def ScorePolicy.ofDocument? (f : DocumentForm) (j : Json) : Option ScorePolicy := do
  let fs ← f.fields? ["full_score", "partial_score", "zero_score", "sandbox_failure_ceiling"] j
  let d : ScorePolicy := {}
  return { full := ← fs.getD? "full_score" d.full word32?
           mixed := ← fs.getD? "partial_score" d.mixed word32?
           zero := ← fs.getD? "zero_score" d.zero word32?
           ceiling := ← fs.getD? "sandbox_failure_ceiling" d.ceiling word32? }

namespace Settings

def stopSecondsOf? (f : DocumentForm) (default : UInt64) (j : Json) : Option UInt64 := do
  let fs ← f.fields? ["stop_timeout_secs"] j
  fs.getD? "stop_timeout_secs" default word64?

def ofDocument? (f : DocumentForm) (j : Json) : Option Settings := do
  let fs ← f.fields? ["log_level", "redis_url", "queue_key", "analyzers", "sandbox", "scoring",
    "worker"] j
  let d : Settings := {}
  return { logLevel := ← fs.getD? "log_level" d.logLevel Json.str?
           redisUrl := ← fs.getD? "redis_url" d.redisUrl Json.str?
           queueKey := ← fs.getD? "queue_key" d.queueKey Json.str?
           analyzers := ← fs.getD? "analyzers" {} (AnalyzerSettings.ofDocument? f)
           sandbox := ← fs.getD? "sandbox" {} (SandboxSettings.ofDocument? f)
           scoring := ← fs.getD? "scoring" {} (ScorePolicy.ofDocument? f)
           stopSeconds := ← fs.getD? "worker" d.stopSeconds (stopSecondsOf? f d.stopSeconds) }

def ofToml (text : String) : Except SettingsError Settings :=
  match (Toml.parse? text).bind (ofDocument? .toml) with
  | some s => .ok s
  | none => .error .malformed

end Settings

end FixGrader
