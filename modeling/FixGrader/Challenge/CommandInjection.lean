import FixGrader.Challenge.Idiom
import FixGrader.Challenge.Verdict

namespace FixGrader.CommandInjection

open Pattern CharSet Idiom

def subprocessCall : Pattern :=
  wordBoundary ++ lit "subprocess." ++
    anyOf [lit "run", lit "call", lit "check_call", lit "check_output", lit "Popen"] ++ char '('

def shellFlag : Pattern :=
  wordBoundary ++ lit "shell" ++ blanks ++ char '=' ++ blanks ++ lit "True" ++ wordBoundary

def isOpening (c : Char) : Bool := c == '(' || c == '[' || c == '{'

def isClosing (c : Char) : Bool := c == ')' || c == ']' || c == '}'

def isQuote (c : Char) : Bool := c == '"' || c == '\''

/-- Where a scan of arguments stands: brackets still open, the literal it is in and whether a
backslash came just before. -/
structure ScanState where
  depth : Nat := 0
  quote : Option Char := none
  escaped : Bool := false

def ScanState.next? (s : ScanState) (c : Char) : Option ScanState :=
  match s.quote with
  | some q =>
    if s.escaped then some { s with escaped := false }
    else if c == '\\' then some { s with escaped := true }
    else if c == q then some { s with quote := none }
    else some s
  | none =>
    if isQuote c then some { s with quote := some c }
    else if isOpening c then some { s with depth := s.depth + 1 }
    else if isClosing c then
      match s.depth with
      | 0 => none
      | d + 1 => some { s with depth := d }
    else some s

def scan (s : ScanState) : List Char → List Char
  | [] => []
  | c :: rest =>
    match s.next? c with
    | none => []
    | some t => c :: scan t rest

/-- The arguments of a call from the text behind its opening bracket: up to the bracket that closes
it, or all of the text. Brackets in literals do not count. -/
def callArguments (rest : List Char) : List Char := scan {} rest

/-- The loop over the text behind the bracket of a call, which its count of open brackets
includes. -/
structure Loop where
  depth : Nat := 1
  quote : Option Char := none
  escaped : Bool := false

/-- What can break the loop off: a count too large or below zero, a cut within a character or behind
the text. -/
inductive Panic
  | overflow
  | underflow
  | notBoundary

def Loop.next (limit : Nat) (l : Loop) (c : Char) : Except Panic (Option Loop) :=
  match l.quote with
  | some q =>
    if l.escaped then .ok (some { l with escaped := false })
    else if c == '\\' then .ok (some { l with escaped := true })
    else if c == q then .ok (some { l with quote := none })
    else .ok (some l)
  | none =>
    if isQuote c then .ok (some { l with quote := some c })
    else if isOpening c then
      if l.depth < limit then .ok (some { l with depth := l.depth + 1 }) else .error .overflow
    else if isClosing c then
      match l.depth with
      | 0 => .error .underflow
      | 1 => .ok none
      | d + 1 => .ok (some { l with depth := d })
    else .ok (some l)

def Loop.run (limit : Nat) (l : Loop) (i : Nat) : List Char → Except Panic (Option Nat)
  | [] => .ok none
  | c :: cs => do
    match ← l.next limit c with
    | none => return some i
    | some l => l.run limit (i + c.utf8Size) cs

def cut (text : String) (i : Nat) : Except Panic (String × String) :=
  match text.pos? ⟨i⟩ with
  | none => .error .notBoundary
  | some p => .ok ((text.sliceTo p).copy, (text.sliceFrom p).copy)

def argumentsOf (limit : Nat) (rest : String) : Except Panic String := do
  match ← ({} : Loop).run limit 0 rest.toList with
  | none => return rest
  | some i => return (← cut rest i).1

def argumentsAt (limit : Nat) (code : String) (start : Nat) : Except Panic String := do
  argumentsOf limit (← cut code start).2

def hasShellFreeCall (code : String) : Bool :=
  (subprocessCall.ends code.toList).any fun i =>
    (shellFlag.ends (callArguments i.rest)).isEmpty

def rule : Rule where
  safe := hasShellFreeCall
  risky := occursAny [call "os.system", call "os.popen", shellFlag, call "subprocess.getoutput",
    call "subprocess.getstatusoutput", call "commands.getoutput"]
  wording := {
    full := "Command runs through subprocess with an argument list and no shell."
    mixed := "subprocess is used, but shell execution is still enabled somewhere."
    risky := "Direct shell execution detected. " ++
      "Pass an argument list to subprocess without shell=True."
    missing := "No safe subprocess invocation detected. " ++
      "Run the command through subprocess with an argument list." }

end FixGrader.CommandInjection
