import FixGrader.Pattern.Notation
import FixGrader.Pattern.Search
import FixGrader.Settings.Basic

namespace FixGrader

structure DenyPattern where
  text : String
  pattern : Pattern

abbrev DenyList := List DenyPattern

namespace DenyList

/-- The patterns that `texts` write, or the first of `texts` that writes none. -/
def compile : List String → Except String DenyList
  | [] => .ok []
  | text :: texts =>
    match Pattern.read? text with
    | none => .error text
    | some pattern => (compile texts).map (⟨text, pattern⟩ :: ·)

def hostPatterns : List String :=
  ["os\\.system\\(", "os\\.popen\\(", "subprocess\\.Popen\\(", "\\beval\\(", "\\bexec\\("]

/-- A container isolates code that is evaluated at run time. -/
def containerPatterns : List String :=
  ["os\\.system\\(", "os\\.popen\\(", "subprocess\\.Popen\\("]

def ofSettings (s : SandboxSettings) (default : List String) : Except String DenyList :=
  compile (s.denyPatterns.getD default)

/-- The text of the first pattern that `code` matches. -/
def find? (deny : DenyList) (code : String) : Option String :=
  (List.find? (fun p : DenyPattern => p.pattern.occursIn code) deny).map DenyPattern.text

end DenyList

end FixGrader
