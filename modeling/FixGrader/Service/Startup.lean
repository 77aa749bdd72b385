import FixGrader.Settings.Validation
import FixGrader.Settings.VariableFile
import FixGrader.Store.Remote
import FixGrader.Tool.Command

namespace FixGrader

/-- Why the service does not start. -/
inductive StartupFault where
  | variableFile
  | settings (error : SettingsError)
  | logLevel (text : String)
  | unreachable (address : String)
  deriving DecidableEq, Repr

def SettingsError.failure (e : SettingsError) : Failure :=
  match e with
  | unreadable _ fault => [e.message, fault.message]
  | _ => [e.message]

namespace StartupFault

def failure : StartupFault → Failure
  | variableFile => ["failed to set environment variable"]
  | settings error => "Failed to load scoring settings" :: error.failure
  | logLevel _ => ["invalid filter directive"]
  | unreachable address => [s!"no server at {address}"]

def exitCode : StartupFault → Nat
  | variableFile => 101
  | _ => 1

def report (f : StartupFault) : String := "Error: " ++ f.failure.report ++ "\n"

end StartupFault

namespace LogLevel

def names : List String := ["off", "error", "warn", "info", "debug", "trace"]

/-- A name of a level in any letter case, its number, or nothing. -/
def isLevel (text : List Char) : Bool :=
  let digits := match text with
    | '+' :: digits => digits
    | digits => digits
  let isNumber := !digits.isEmpty && digits.all Char.isDigit &&
    Json.digitsValue 0 digits < names.length
  text.isEmpty || isNumber || names.contains (String.ofList (text.map Char.toLower))

def isDirective (text : String) : Bool :=
  let chars := text.toList
  let level := chars.takeWhile (· != ',')
  isLevel level && [[], [',']].contains (Text.trimRight (chars.drop level.length))

end LogLevel

namespace Service

def variableFile : String := ".env"

def completeEnvironment (readFile : String → Except FileFault (List Nat)) (env : Environment) :
    Except StartupFault Environment :=
  match readFile variableFile with
  | .ok bytes =>
    match VariableFile.load? bytes env with
    | some env => .ok env
    | none => .error .variableFile
  | .error _ => .ok env

def configure (readFile : String → Except FileFault (List Nat)) (env : Environment) :
    Except StartupFault Settings := do
  let readText (path : String) := do FileFault.decode (← readFile path)
  let s ← (Settings.load readText env).mapError .settings
  if !LogLevel.isDirective s.logLevel then .error (.logLevel s.logLevel)
  return s

end Service

end FixGrader
