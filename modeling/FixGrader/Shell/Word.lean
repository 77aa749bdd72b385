import FixGrader.Text.Blank

namespace FixGrader.Shell

inductive ScriptFault where
  | openQuote
  | badSubstitution
  | badFunctionName
  | badLoopVariable
  | unexpected (token : String) (wanted : Option String)
  deriving DecidableEq, Repr

def ScriptFault.message : ScriptFault → String
  | openQuote => "Syntax error: Unterminated quoted string"
  | badSubstitution => "Bad substitution"
  | badFunctionName => "Syntax error: Bad function name"
  | badLoopVariable => "Syntax error: Bad for loop variable"
  | unexpected token none => s!"Syntax error: {token} unexpected"
  | unexpected token (some wanted) => s!"Syntax error: {token} unexpected (expecting \"{wanted}\")"

/-- What is asked of a parameter. With `orEmpty`, an empty value counts as none. -/
inductive ParamUse where
  | value
  | length
  | otherwise (orEmpty : Bool) (alternative : List Char)
  | whenSet (orEmpty : Bool) (alternative : List Char)
  | assigned (orEmpty : Bool) (value : List Char)
  | required (orEmpty : Bool) (message : List Char)
  | trimmed (atEnd longest : Bool) (pattern : List Char)
  deriving Repr

inductive Piece where
  | literal (text : List Char) (quoted : Bool)
  | param (name : String) (use : ParamUse) (quoted : Bool)
  | sum (source : List Char) (quoted : Bool)
  | output (source : List Char) (quoted : Bool)
  deriving Repr

def Piece.isQuoted : Piece → Bool
  | literal _ q | param _ _ q | sum _ q | output _ q => q

abbrev Word := List Piece

namespace Word

def isNameStart (c : Char) : Bool := c.isAlpha || c == '_'

def isNameChar (c : Char) : Bool := c.isAlphanum || c == '_'

def isName (s : List Char) : Bool :=
  match s with
  | [] => false
  | c :: rest => isNameStart c && rest.all isNameChar

def isSpecial (c : Char) : Bool := c.isDigit || "?#$!@*-".contains c

inductive Ending where
  | blank
  | quote
  | never
  deriving DecidableEq

def isBreak (c : Char) : Bool := " \t\n;&|<>()".contains c

def push (c : Char) (quoted : Bool) : Word → Word
  | .literal text q :: rest =>
    if q == quoted then .literal (c :: text) q :: rest
    else .literal [c] quoted :: .literal text q :: rest
  | rest => .literal [c] quoted :: rest

/-- Splits before the character `close` that closes `depth` openings; quotes hide what they hold. -/
def splitClosed (opener close : Char) (depth : Nat) (quote : Option Char) :
    List Char → Option (List Char × List Char)
  | [] => none
  | '\\' :: c :: rest =>
    (splitClosed opener close depth quote rest).map fun (a, b) => ('\\' :: c :: a, b)
  | c :: rest =>
    let next (depth : Nat) (quote : Option Char) :=
      (splitClosed opener close depth quote rest).map fun (a, b) => (c :: a, b)
    match quote with
    | some q => next depth (if c == q then none else quote)
    | none =>
      if c == '\'' || c == '"' then next depth (some c)
      else if c == opener then next (depth + 1) none
      else if c == close then if depth = 0 then some ([], rest) else next (depth - 1) none
      else next depth none

def splitBackquote : List Char → Option (List Char × List Char)
  | [] => none
  | '\x60' :: rest => some ([], rest)
  | '\\' :: c :: rest =>
    (splitBackquote rest).map fun (a, b) =>
      (if c == '\x60' || c == '\\' || c == '$' then c :: a else '\\' :: c :: a, b)
  | c :: rest => (splitBackquote rest).map fun (a, b) => (c :: a, b)

def readBraces (s : List Char) (quoted : Bool) : Except ScriptFault Piece :=
  match s with
  | ['#'] => .ok (.param "#" .value quoted)
  | '#' :: name =>
    if isName name || name.all Char.isDigit then .ok (.param (String.ofList name) .length quoted)
    else .error .badSubstitution
  | c :: tail =>
    let (name, rest) :=
      if isNameStart c then (s.takeWhile isNameChar, s.dropWhile isNameChar)
      else if c.isDigit then (s.takeWhile Char.isDigit, s.dropWhile Char.isDigit)
      else ([c], tail)
    let piece (use : ParamUse) := Except.ok (.param (String.ofList name) use quoted)
    if !(isNameStart c || isSpecial c) then .error .badSubstitution else
    match rest with
    | [] => piece .value
    | ':' :: '-' :: alt => piece (.otherwise true alt)
    | '-' :: alt => piece (.otherwise false alt)
    | ':' :: '+' :: alt => piece (.whenSet true alt)
    | '+' :: alt => piece (.whenSet false alt)
    | ':' :: '=' :: value => piece (.assigned true value)
    | '=' :: value => piece (.assigned false value)
    | ':' :: '?' :: message => piece (.required true message)
    | '?' :: message => piece (.required false message)
    | '%' :: '%' :: pattern => piece (.trimmed true true pattern)
    | '%' :: pattern => piece (.trimmed true false pattern)
    | '#' :: '#' :: pattern => piece (.trimmed false true pattern)
    | '#' :: pattern => piece (.trimmed false false pattern)
    | _ => .error .badSubstitution
  | [] => .error .badSubstitution

def readDollar (s : List Char) (quoted : Bool) : Except ScriptFault (Piece × List Char) :=
  match s with
  | '(' :: '(' :: rest =>
    match splitClosed '(' ')' 0 none rest with
    | some (source, ')' :: rest) => .ok (.sum source quoted, rest)
    | _ => .error (.unexpected "end of file" (some ")"))
  | '(' :: rest =>
    match splitClosed '(' ')' 0 none rest with
    | some (source, rest) => .ok (.output source quoted, rest)
    | none => .error (.unexpected "end of file" (some ")"))
  | '{' :: rest =>
    match splitClosed '{' '}' 0 none rest with
    | some (source, rest) => (readBraces source quoted).map (·, rest)
    | none => .error (if quoted then .openQuote else .unexpected "end of file" (some "\x7d"))
  | c :: rest =>
    if isNameStart c then
      .ok (.param (String.ofList (s.takeWhile isNameChar)) .value quoted, s.dropWhile isNameChar)
    else if isSpecial c then .ok (.param (String.singleton c) .value quoted, rest)
    else .ok (.literal ['$'] quoted, s)
  | [] => .ok (.literal ['$'] quoted, [])

/-- Reads a word, and what follows it, up to `ending`. Every step takes a character, so `fuel` of
the length of the text is enough. -/
def readParts (ending : Ending) (quoted : Bool) :
    (fuel : Nat) → List Char → Except ScriptFault (Word × List Char)
  | 0, s => .ok ([], s)
  | fuel + 1, s => do
    let continueWith (piece : Piece) (rest : List Char) :
        Except ScriptFault (Word × List Char) := do
      let (more, rest) ← readParts ending quoted fuel rest
      return (piece :: more, rest)
    let keep (c : Char) (q : Bool) (rest : List Char) : Except ScriptFault (Word × List Char) := do
      let (more, rest) ← readParts ending quoted fuel rest
      return (push c q more, rest)
    match s with
    | [] => if ending = .quote then .error .openQuote else return ([], [])
    | '\\' :: '\n' :: rest => readParts ending quoted fuel rest
    | '\\' :: c :: rest =>
      if !quoted || "$\x60\\".contains c || (c == '"' && ending = .quote) then keep c true rest
      else keep '\\' quoted (c :: rest)
    | '$' :: rest =>
      let (piece, rest) ← readDollar rest quoted
      continueWith piece rest
    | '\x60' :: rest =>
      match splitBackquote rest with
      | some (source, rest) => continueWith (.output source quoted) rest
      | none => .error .openQuote
    | '"' :: rest =>
      if ending = .quote then return ([], rest)
      else if quoted then keep '"' quoted rest
      else
        let (inner, rest) ← readParts .quote true fuel rest
        let (more, rest) ← readParts ending quoted fuel rest
        return ((if inner.isEmpty then [.literal [] true] else inner) ++ more, rest)
    | '\'' :: rest =>
      if quoted then keep '\'' quoted rest
      else
        match rest.span (· != '\'') with
        | (text, _ :: rest) => continueWith (.literal text true) rest
        | (_, []) => .error .openQuote
    | c :: rest =>
      if ending = .blank && isBreak c then return ([], s) else keep c quoted rest

def read (s : List Char) : Except ScriptFault (Word × List Char) :=
  readParts .blank false (s.length + 1) s

def ofText (quoted : Bool) (s : List Char) : Except ScriptFault Word :=
  (readParts .never quoted (s.length + 1) s).map (·.1)

def plain? : Word → Option String
  | [.literal text false] => some (String.ofList text)
  | _ => none

def bare (w : Word) : List Char :=
  w.flatMap fun
    | .literal text _ => text
    | .param name _ _ => '$' :: name.toList
    | .sum source _ | .output source _ => source

def hasQuotes (w : Word) : Bool :=
  w.any fun
    | .literal _ quoted => quoted
    | _ => false

end Word

end FixGrader.Shell
