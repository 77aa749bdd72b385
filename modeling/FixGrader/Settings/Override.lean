import FixGrader.Settings.Basic
import FixGrader.Text.Blank
import FixGrader.Unicode.Casing

namespace FixGrader

/-- The number that the digits write after what `n` stands for, if it stays below `bound`. The
first fault from the left counts. -/
def decimalBelow (bound n : Nat) : List Char → Except ValueFault Nat
  | [] => .ok n
  | c :: cs =>
    if !c.isDigit then .error .badDigit
    else
      let n := 10 * n + (c.toNat - '0'.toNat)
      if n < bound then decimalBelow bound n cs else .error .tooLarge

/-- An unsigned number, before which a plus sign may stand. -/
def unsigned (bound : Nat) (text : List Char) : Except ValueFault Nat :=
  match text with
  | [] => .error .noDigits
  | ['+'] => .error .badDigit
  | '+' :: digits => decimalBelow bound 0 digits
  | digits => decimalBelow bound 0 digits

namespace ValueText

def word32 (text : String) : Except ValueFault UInt32 :=
  (unsigned UInt32.size (Text.trimChars text.toList)).map UInt32.ofNat

def word64 (text : String) : Except ValueFault UInt64 :=
  (unsigned UInt64.size (Text.trimChars text.toList)).map UInt64.ofNat

def bool (text : String) : Except ValueFault Bool :=
  match Text.trim text with
  | "true" => .ok true
  | "false" => .ok false
  | _ => .error .notBoolean

def driver (text : String) : Except ValueFault SandboxDriver :=
  let name := Unicode.toLower (Text.trim text)
  match SandboxDriver.ofName? name with
  | some d => .ok d
  | none => .error (.unknownDriver name)

def pieces (text : String) : List String :=
  (((Text.splitAt ',' text.toList).map Text.trimChars).filter (!·.isEmpty)).map String.ofList

end ValueText

/-- The variables that override settings, in the order in which they do. -/
inductive Variable where
  | logLevel
  | redisUrl
  | queueKey
  | semgrepEnabled
  | semgrepBinary
  | semgrepRules
  | semgrepSeconds
  | banditEnabled
  | banditBinary
  | banditSeconds
  | banditSeverity
  | banditConfidence
  | driver
  | sandboxSeconds
  | python
  | runtime
  | image
  | memoryMb
  | cpuShares
  | cpuSeconds
  | fullScore
  | mixedScore
  | zeroScore
  | ceiling
  | stopSeconds
  deriving DecidableEq, Repr

namespace Variable

open ValueText

def all : List Variable :=
  [logLevel, redisUrl, queueKey, semgrepEnabled, semgrepBinary, semgrepRules, semgrepSeconds,
   banditEnabled, banditBinary, banditSeconds, banditSeverity, banditConfidence, driver,
   sandboxSeconds, python, runtime, image, memoryMb, cpuShares, cpuSeconds, fullScore, mixedScore,
   zeroScore, ceiling, stopSeconds]

def name : Variable → String
  | logLevel => "SCORING_LOG_LEVEL"
  | redisUrl => "REDIS_URL"
  | queueKey => "SCORING_QUEUE_KEY"
  | semgrepEnabled => "SCORING_SEMGREP_ENABLED"
  | semgrepBinary => "SCORING_SEMGREP_BIN"
  | semgrepRules => "SCORING_SEMGREP_RULES"
  | semgrepSeconds => "SCORING_SEMGREP_TIMEOUT_SECS"
  | banditEnabled => "SCORING_BANDIT_ENABLED"
  | banditBinary => "SCORING_BANDIT_BIN"
  | banditSeconds => "SCORING_BANDIT_TIMEOUT_SECS"
  | banditSeverity => "SCORING_BANDIT_SEVERITY"
  | banditConfidence => "SCORING_BANDIT_CONFIDENCE"
  | driver => "SCORING_SANDBOX_DRIVER"
  | sandboxSeconds => "SCORING_SANDBOX_TIMEOUT_SECS"
  | python => "SCORING_SANDBOX_PYTHON"
  | runtime => "SCORING_SANDBOX_RUNTIME"
  | image => "SCORING_SANDBOX_IMAGE"
  | memoryMb => "SCORING_SANDBOX_MEMORY_MB"
  | cpuShares => "SCORING_SANDBOX_CPU_SHARES"
  | cpuSeconds => "SCORING_SANDBOX_CPU_SECS"
  | fullScore => "SCORING_FULL_SCORE"
  | mixedScore => "SCORING_PARTIAL_SCORE"
  | zeroScore => "SCORING_ZERO_SCORE"
  | ceiling => "SCORING_SANDBOX_FAILURE_CEILING"
  | stopSeconds => "SCORING_STOP_TIMEOUT_SECS"

def onSemgrep (s : Settings) (f : SemgrepSettings → SemgrepSettings) : Settings :=
  { s with analyzers.semgrep := f s.analyzers.semgrep }

def onBandit (s : Settings) (f : BanditSettings → BanditSettings) : Settings :=
  { s with analyzers.bandit := f s.analyzers.bandit }

def onSandbox (s : Settings) (f : SandboxSettings → SandboxSettings) : Settings :=
  { s with sandbox := f s.sandbox }

def onScoring (s : Settings) (f : ScorePolicy → ScorePolicy) : Settings :=
  { s with scoring := f s.scoring }

/-- Gives the variable's field the value that `text` writes. -/
def set (v : Variable) (s : Settings) (text : String) : Except ValueFault Settings :=
  match v with
  | logLevel => .ok { s with logLevel := text }
  | redisUrl => .ok { s with redisUrl := text }
  | queueKey => .ok { s with queueKey := text }
  | semgrepEnabled => (bool text).map fun b => onSemgrep s ({ · with enabled := b })
  | semgrepBinary => .ok (onSemgrep s ({ · with binary := text }))
  | semgrepRules => .ok (onSemgrep s ({ · with rules := pieces text }))
  | semgrepSeconds => (word64 text).map fun n => onSemgrep s ({ · with seconds := n })
  | banditEnabled => (bool text).map fun b => onBandit s ({ · with enabled := b })
  | banditBinary => .ok (onBandit s ({ · with binary := text }))
  | banditSeconds => (word64 text).map fun n => onBandit s ({ · with seconds := n })
  | banditSeverity => .ok (onBandit s ({ · with severity := text }))
  | banditConfidence => .ok (onBandit s ({ · with confidence := text }))
  | driver => (ValueText.driver text).map fun d => onSandbox s ({ · with driver := d })
  | sandboxSeconds => (word64 text).map fun n => onSandbox s ({ · with seconds := n })
  | python => .ok (onSandbox s ({ · with python := text }))
  | runtime => .ok (onSandbox s ({ · with runtime := text }))
  | image => .ok (onSandbox s ({ · with image := text }))
  | memoryMb => (word32 text).map fun n => onSandbox s ({ · with memoryMb := n })
  | cpuShares => (word32 text).map fun n => onSandbox s ({ · with cpuShares := n })
  | cpuSeconds => (word32 text).map fun n => onSandbox s ({ · with cpuSeconds := n })
  | fullScore => (word32 text).map fun n => onScoring s ({ · with full := n })
  | mixedScore => (word32 text).map fun n => onScoring s ({ · with mixed := n })
  | zeroScore => (word32 text).map fun n => onScoring s ({ · with zero := n })
  | ceiling => (word32 text).map fun n => onScoring s ({ · with ceiling := n })
  | stopSeconds => (word64 text).map fun n => { s with stopSeconds := n }

end Variable

abbrev Environment := List (String × String)

namespace Settings

def overrideOne (env : Environment) (s : Settings) (v : Variable) :
    Except SettingsError Settings :=
  match env.lookup v.name with
  | none => .ok s
  | some text => (v.set s text).mapError (.invalid v.name)

def override (s : Settings) (env : Environment) : Except SettingsError Settings :=
  Variable.all.foldlM (overrideOne env) s

end Settings

end FixGrader
