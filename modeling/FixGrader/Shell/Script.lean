import FixGrader.Shell.Word

namespace FixGrader.Shell

/-- What a stream of a command is connected to. -/
inductive Target where
  | readFile (name : Word)
  /-- A new file, or one that is already there; what it holds is kept `atEnd`, and lost if `force`
  overrules the option that protects it. -/
  | writeFile (name : Word) (atEnd force : Bool)
  | stream (source : Word)
  | text (body : Word)
  deriving Repr

structure Redirect where
  stream : Nat
  target : Target
  deriving Repr

inductive Script where
  | nothing
  | simple (line : Nat) (settings : List (String × Word)) (words : List Word)
      (redirects : List Redirect)
  | seq (first second : Script)
  | andThen (first second : Script)
  | orElse (first second : Script)
  | pipe (first second : Script)
  | negated (body : Script)
  | background (body : Script)
  | choice (test yes no : Script)
  | matching (subject : Word) (patterns : List Word) (yes no : Script)
  | loop (awaited : Bool) (test body : Script)
  | forEach (name : String) (values : List Word) (body : Script)
  | subshell (body : Script)
  | within (redirects : List Redirect) (body : Script)
  | define (name : String) (body : Script)
  deriving Repr, Inhabited

namespace Script

inductive Token where
  | word (w : Word)
  | mark (text : String)
  | redirect (r : Redirect)
  deriving Repr

abbrev Tokens := List (Nat × Token)

def marks : List String := ["&&", "||", ";;", ";", "&", "|", "(", ")"]

def readMark? (s : List Char) : Option (String × List Char) :=
  (marks.find? fun m => m.toList.isPrefixOf s).map fun m => (m, s.drop m.length)

def skipBlanks (s : List Char) : List Char := s.dropWhile fun c => c == ' ' || c == '\t'

def splitLine (s : List Char) : List Char × List Char :=
  ((s.takeWhile (· != '\n')), (s.dropWhile (· != '\n')).drop 1)

/-- Takes the lines of an embedded text up to the line `stop`. With `tabs`, tabs at the beginning of
lines are dropped. -/
def readBody (stop : List Char) (tabs : Bool) : (fuel : Nat) → List Char → List Char × List Char
  | 0, s => ([], s)
  | _ + 1, [] => ([], [])
  | fuel + 1, s =>
    let (line, rest) := splitLine s
    let line := if tabs then line.dropWhile (· == '\t') else line
    if line == stop then ([], rest)
    else
      let (more, rest) := readBody stop tabs fuel rest
      (line ++ '\n' :: more, rest)

def readStream? (s : List Char) : Option (Option Nat × List Char) :=
  let digits := s.takeWhile Char.isDigit
  match s.drop digits.length with
  | c :: rest =>
    if c == '<' || c == '>' then some ((String.ofList digits).toNat?, c :: rest) else none
  | [] => none

/-- Reads a redirection from its operator on. An embedded text is taken from the following lines. -/
def readRedirect (number : Option Nat) (s : List Char) :
    Except ScriptFault (Redirect × List Char) := do
  let make (stream : Nat) (target : Word → Target) (rest : List Char) := do
    let (w, rest) ← Word.read (skipBlanks rest)
    if w.isEmpty then .error (.unexpected "newline" none)
    else return (Redirect.mk (number.getD stream) (target w), rest)
  match s with
  | '<' :: '<' :: rest =>
    let (tabs, rest) := match rest with
      | '-' :: rest => (true, rest)
      | rest => (false, rest)
    let (stop, rest) ← Word.read (skipBlanks rest)
    let (line, later) := splitLine rest
    let (body, later) := readBody stop.bare tabs (later.length + 1) later
    let body ← if stop.hasQuotes then pure [Piece.literal body true] else Word.ofText true body
    return (⟨number.getD 0, .text body⟩, line ++ '\n' :: later)
  | '<' :: '&' :: rest => make 0 .stream rest
  | '<' :: rest => make 0 .readFile rest
  | '>' :: '&' :: rest => make 1 .stream rest
  | '>' :: '>' :: rest => make 1 (.writeFile · true false) rest
  | '>' :: '|' :: rest => make 1 (.writeFile · false true) rest
  | '>' :: rest => make 1 (.writeFile · false false) rest
  | _ => .error (.unexpected "newline" none)

/-- Splits a text into tokens, with the fault that ends it. Every token takes a character, so `fuel`
of twice the length of the text is enough. -/
def tokens (line : Nat) : (fuel : Nat) → List Char → Tokens × Option (Nat × ScriptFault)
  | 0, _ => ([], none)
  | fuel + 1, s =>
    let add (t : Token) (line' : Nat) (rest : List Char) :=
      let (more, fault) := tokens line' fuel rest
      ((line, t) :: more, fault)
    match skipBlanks s with
    | [] => ([], none)
    | '\n' :: rest => add (.mark "\n") (line + 1) rest
    | '\\' :: '\n' :: rest => tokens (line + 1) fuel rest
    | '#' :: rest => tokens line fuel (rest.dropWhile (· != '\n'))
    | s =>
      match readMark? s, readStream? s with
      | some (m, rest), _ => add (.mark m) line rest
      | none, some (number, rest) =>
        match readRedirect number rest with
        | .ok (r, rest) => add (.redirect r) line rest
        | .error fault => ([], some (line, fault))
      | none, none =>
        match Word.read s with
        | .ok (w, rest) =>
          let lines := (s.take (s.length - rest.length)).countP (· == '\n')
          add (.word w) (line + lines) rest
        | .error fault => ([], some (line, fault))

def reservedWords : List String :=
  ["then", "else", "elif", "fi", "do", "done", "esac", "\x7b", "\x7d", "!", "if", "while", "until",
   "for", "case", "in"]

def Token.label : Token → String
  | .mark "\n" => "newline"
  | .mark m => s!"\"{m}\""
  | .redirect _ => "redirection"
  | .word w =>
    match w.plain? with
    | some t => if reservedWords.contains t then s!"\"{t}\"" else "word"
    | none => "word"

abbrev Parse (α : Type) := Tokens → Except (Nat × ScriptFault) (α × Tokens)

def unexpected {α : Type} (wanted : Option String) : Parse α
  | [] => .error (0, .unexpected "end of file" wanted)
  | (line, t) :: _ => .error (line, .unexpected t.label wanted)

def keyword? : Tokens → Option String
  | (_, .word w) :: _ => w.plain?
  | _ => none

def isMark (m : String) : Tokens → Bool
  | (_, .mark m') :: _ => m == m'
  | _ => false

def skipLines (ts : Tokens) : Tokens := ts.dropWhile fun t => isMark "\n" [t]

def takeRedirects : Tokens → List Redirect × Tokens
  | (_, .redirect r) :: rest =>
    let (rs, rest) := takeRedirects rest
    (r :: rs, rest)
  | rest => ([], rest)

def expectWord (name : String) : Parse Unit := fun ts =>
  if keyword? ts == some name then .ok ((), ts.drop 1) else unexpected (some name) ts

def setting? : Word → Option (String × Word)
  | .literal text false :: rest =>
    let name := text.takeWhile (· != '=')
    match text.drop name.length with
    | '=' :: value =>
      if Word.isName name then
        some (String.ofList name, if value.isEmpty then rest else .literal value false :: rest)
      else none
    | _ => none
  | _ => none

def splitSettings : List Word → List (String × Word) × List Word
  | [] => ([], [])
  | w :: rest =>
    match setting? w with
    | some s =>
      let (more, words) := splitSettings rest
      (s :: more, words)
    | none => ([], w :: rest)

def takeSimple : Tokens → List Word × List Redirect × Tokens
  | (_, .word w) :: rest =>
    let (ws, rs, rest) := takeSimple rest
    (w :: ws, rs, rest)
  | (_, .redirect r) :: rest =>
    let (ws, rs, rest) := takeSimple rest
    (ws, r :: rs, rest)
  | rest => ([], [], rest)

def takeWords : Tokens → List Word × Tokens
  | (_, .word w) :: rest =>
    let (ws, rest) := takeWords rest
    (w :: ws, rest)
  | rest => ([], rest)

def takePatterns : Tokens → List Word × Tokens
  | (_, .word w) :: (_, .mark "|") :: rest =>
    let (ws, rest) := takePatterns rest
    (w :: ws, rest)
  | (_, .word w) :: rest => ([w], rest)
  | rest => ([], rest)

/-- Built-in commands that no function can replace; they keep the variables set in front of them. -/
def specialNames : List String :=
  [":", "exit", "return", "break", "continue", "export", "readonly", "unset", "set", "shift",
   "trap", "times", "eval", "exec", "."]

def closers : List String := ["then", "else", "elif", "fi", "do", "done", "\x7d", "esac"]

def endsList (ts : Tokens) : Bool :=
  match ts with
  | [] => true
  | _ => isMark ")" ts || isMark ";;" ts || (keyword? ts).any closers.contains

mutual

def parseList : Nat → Parse Script
  | 0, ts => unexpected none ts
  | fuel + 1, ts => do
    let ts := skipLines ts
    if endsList ts then return (.nothing, ts)
    let (first, ts) ← parseChain fuel ts
    let (first, separated, ts) :=
      if isMark "&" ts then (.background first, true, ts.drop 1)
      else (first, isMark ";" ts || isMark "\n" ts, if isMark ";" ts then ts.drop 1 else ts)
    if separated then
      let (rest, ts) ← parseList fuel ts
      return (.seq first rest, ts)
    else return (first, ts)

def parseChain : Nat → Parse Script
  | 0, ts => unexpected none ts
  | fuel + 1, ts => do
    let (first, ts) ← parsePipeline fuel ts
    parseMore fuel first ts

def parseMore : Nat → Script → Parse Script
  | 0, _, ts => unexpected none ts
  | fuel + 1, first, ts => do
    if isMark "&&" ts then
      let (next, ts) ← parsePipeline fuel (skipLines (ts.drop 1))
      parseMore fuel (.andThen first next) ts
    else if isMark "||" ts then
      let (next, ts) ← parsePipeline fuel (skipLines (ts.drop 1))
      parseMore fuel (.orElse first next) ts
    else return (first, ts)

def parsePipeline : Nat → Parse Script
  | 0, ts => unexpected none ts
  | fuel + 1, ts => do
    if keyword? ts == some "!" then
      let (body, ts) ← parsePipeline fuel (ts.drop 1)
      return (.negated body, ts)
    let (first, ts) ← parseCommand fuel ts
    if isMark "|" ts then
      let (next, ts) ← parsePipeline fuel (skipLines (ts.drop 1))
      return (.pipe first next, ts)
    else return (first, ts)

def parseCommand : Nat → Parse Script
  | 0, ts => unexpected none ts
  | fuel + 1, ts => do
    let (body, ts) ←
      match keyword? ts with
      | some "if" => parseChoice fuel (ts.drop 1)
      | some "while" => parseLoop fuel false (ts.drop 1)
      | some "until" => parseLoop fuel true (ts.drop 1)
      | some "for" => parseFor fuel (ts.drop 1)
      | some "case" => parseCase fuel (ts.drop 1)
      | some "\x7b" =>
        let (body, ts) ← parseList fuel (ts.drop 1)
        let ((), ts) ← expectWord "\x7d" ts
        pure (body, ts)
      | word? =>
        if isMark "(" ts then
          let (body, ts) ← parseList fuel (ts.drop 1)
          if isMark ")" ts then pure (.subshell body, ts.drop 1)
          else unexpected (some ")") ts
        else
          let (words, redirects, rest) := takeSimple ts
          if (words.isEmpty && redirects.isEmpty) || word?.any closers.contains then
            unexpected none ts
          else if isMark "(" rest then
            match words.map Word.plain? with
            | [some name] =>
              if !isMark ")" (rest.drop 1) then unexpected (some ")") (rest.drop 1)
              else if !Word.isName name.toList || specialNames.contains name then
                .error (((rest.head?.map (·.1)).getD 0), .badFunctionName)
              else
                let (body, rest) ← parseCommand fuel (skipLines (rest.drop 2))
                return (.define name body, rest)
            | _ => unexpected none rest
          else
            let line := (ts.head?.map (·.1)).getD 0
            let (settings, words) := splitSettings words
            return (.simple line settings words redirects, rest)
    let (redirects, ts) := takeRedirects ts
    return (if redirects.isEmpty then body else .within redirects body, ts)

def parseChoice : Nat → Parse Script
  | 0, ts => unexpected none ts
  | fuel + 1, ts => do
    let (test, ts) ← parseList fuel ts
    let ((), ts) ← expectWord "then" ts
    let (yes, ts) ← parseList fuel ts
    if keyword? ts == some "elif" then
      let (no, ts) ← parseChoice fuel (ts.drop 1)
      return (.choice test yes no, ts)
    else if keyword? ts == some "else" then
      let (no, ts) ← parseList fuel (ts.drop 1)
      let ((), ts) ← expectWord "fi" ts
      return (.choice test yes no, ts)
    else
      let ((), ts) ← expectWord "fi" ts
      return (.choice test yes .nothing, ts)

def parseLoop : Nat → Bool → Parse Script
  | 0, _, ts => unexpected none ts
  | fuel + 1, awaited, ts => do
    let (test, ts) ← parseList fuel ts
    let (body, ts) ← parseBody fuel ts
    return (.loop awaited test body, ts)

def parseFor : Nat → Parse Script
  | 0, ts => unexpected none ts
  | fuel + 1, ts => do
    match keyword? ts with
    | none => unexpected none ts
    | some name =>
      if !Word.isName name.toList then
        .error (((ts.head?.map (·.1)).getD 0), .badLoopVariable)
      else
        let ts := skipLines (ts.drop 1)
        let hasValues := keyword? ts == some "in"
        let (values, ts) :=
          if hasValues then takeWords (ts.drop 1) else ([[.param "@" .value true]], ts)
        let ends := isMark ";" ts
        if hasValues && !ends && !isMark "\n" ts then return ← unexpected none ts
        let (body, ts) ← parseBody fuel (skipLines (if ends then ts.drop 1 else ts))
        return (.forEach name values body, ts)

def parseCase : Nat → Parse Script
  | 0, ts => unexpected none ts
  | fuel + 1, ts => do
    match ts with
    | (_, .word subject) :: ts =>
      let ((), ts) ← expectWord "in" (skipLines ts)
      parseBranches fuel subject ts
    | ts => unexpected none ts

def parseBranches : Nat → Word → Parse Script
  | 0, _, ts => unexpected none ts
  | fuel + 1, subject, ts => do
    let ts := skipLines ts
    if keyword? ts == some "esac" then return (.nothing, ts.drop 1)
    let (patterns, ts) := takePatterns (if isMark "(" ts then ts.drop 1 else ts)
    if patterns.isEmpty || !isMark ")" ts then return ← unexpected (some ")") ts
    let (body, ts) ← parseList fuel (ts.drop 1)
    if isMark ";;" ts then
      let (more, ts) ← parseBranches fuel subject (ts.drop 1)
      return (.matching subject patterns body more, ts)
    else
      let ((), ts) ← expectWord "esac" ts
      return (.matching subject patterns body .nothing, ts)

def parseBody : Nat → Parse Script
  | 0, ts => unexpected none ts
  | fuel + 1, ts => do
    let ((), ts) ← expectWord "do" ts
    let (body, ts) ← parseList fuel ts
    let ((), ts) ← expectWord "done" ts
    return (body, ts)

end

def parseLine (depth : Nat) : (fuel : Nat) → Parse Script
  | 0, ts => unexpected none ts
  | fuel + 1, ts => do
    let (first, ts) ← parseChain depth ts
    let (first, ts) :=
      if isMark "&" ts then (.background first, ts.drop 1)
      else (first, if isMark ";" ts then ts.drop 1 else ts)
    if ts.isEmpty || isMark "\n" ts then return (first, ts.drop 1)
    else
      let (rest, ts) ← parseLine depth fuel ts
      return (.seq first rest, ts)

def commands (depth : Nat) : (fuel : Nat) → Tokens → List Script × Option (Nat × ScriptFault)
  | 0, _ => ([], none)
  | fuel + 1, ts =>
    match skipLines ts with
    | [] => ([], none)
    | ts =>
      match parseLine depth depth ts with
      | .error fault => ([], some fault)
      | .ok (c, rest) =>
        let (more, fault) := commands depth fuel rest
        (c :: more, fault)

def read (source : List Char) : List Script × Option (Nat × ScriptFault) :=
  let lines := source.countP (· == '\n') + 1
  let (ts, fault) := tokens 1 (2 * source.length + 2) source
  let (cs, fault') := commands (8 * ts.length + 8) (ts.length + 1) ts
  let atLine (f : Nat × ScriptFault) := (if f.1 = 0 then lines else f.1, f.2)
  match fault with
  | none => (cs, fault'.map atLine)
  | some f =>
    let complete := ts.reverse.dropWhile (fun t => !isMark "\n" [t]) |>.reverse
    let (cs, _) := commands (8 * complete.length + 8) (complete.length + 1) complete
    (cs, some (atLine f))

end Script

end FixGrader.Shell
