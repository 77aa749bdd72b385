import FixGrader.Settings.Override
import FixGrader.Unicode.Letter

namespace FixGrader

namespace VariableFile

inductive Scan where
  | plain
  | blank
  | escape
  | quoted (strong escaped : Bool)
  deriving DecidableEq

def Scan.next (c : Char) : Scan → Option Scan
  | plain =>
    if Text.isBlank c && c != '\n' && c != '\r' then some blank else some (opening c)
  | blank => if c == '#' then none else some (opening c)
  | escape => some plain
  | quoted strong true => some (quoted strong false)
  | quoted strong false =>
    if c == '\\' then some (quoted strong true)
    else if c == (if strong then '\'' else '"') then some plain
    else some (quoted strong false)
where
  opening (c : Char) : Scan :=
    if c == '\\' then escape
    else if c == '"' then quoted false false
    else if c == '\'' then quoted true false
    else plain

def scanLine (scan : Scan) : List Char → Scan × List Char × Bool
  | [] => (scan, [], false)
  | c :: rest =>
    match scan.next c with
    | none => (scan, [], true)
    | some scan =>
      let (last, text, comment) := scanLine scan rest
      (last, c :: text, comment)

/-- Joins lines to entries: an entry goes on as long as a quote or an escape is open. The last item
is `none` if the file ends inside an entry or at a line that is no text. -/
def entries (scan : Scan) (before : List Char) :
    List (Option (List Char)) → List (Option (List Char))
  | [] => if scan = .plain then [] else [none]
  | none :: _ => [none]
  | some line :: rest =>
    let isComment := (Text.trimLeft (before ++ line)).head? == some '#'
    if isComment then entries .plain [] rest
    else
      let (scan, text, comment) := scanLine scan line
      let entry := before ++ text
      if comment then some entry :: entries .plain [] rest
      else if scan = .plain then
        let entry := if entry.getLast? == some '\n' then entry.dropLast else entry
        some entry :: entries .plain [] rest
      else entries scan entry rest

def isNameStart (c : Char) : Bool := c.isAlpha || c == '_'

def isNameChar (c : Char) : Bool := c.isAlphanum || c == '_' || c == '.'

def readName? (s : List Char) : Option (List Char × List Char) :=
  match s with
  | c :: _ => if isNameStart c then some (s.takeWhile isNameChar, s.dropWhile isNameChar) else none
  | [] => none

/-- Where the name of a variable is read: nowhere, after a dollar sign, or in braces. -/
inductive Naming where
  | none
  | bare
  | braced
  deriving DecidableEq

structure Reading where
  output : List Char := []
  strong : Bool := false
  weak : Bool := false
  escaped : Bool := false
  ending : Bool := false
  naming : Naming := .none
  name : List Char := []

namespace Reading

def put (r : Reading) (c : Char) : Reading := { r with output := r.output ++ [c] }

def substitute (lookup : String → Option String) (r : Reading) : Reading :=
  { r with
    output := r.output ++ ((lookup (String.ofList r.name)).getD "").toList
    naming := .none
    name := [] }

def escape (r : Reading) (c : Char) : Option Reading :=
  let r := { r with escaped := false }
  if ['\\', '\'', '"', '$', ' '].contains c then some (r.put c)
  else if c == 'n' then some (r.put '\n')
  else .none

def readName (lookup : String → Option String) (r : Reading) (c : Char) : Reading :=
  if Unicode.isAlphanumeric c then { r with name := r.name ++ [c] }
  else if r.naming = .braced then
    if c == '\x7d' then r.substitute lookup else { r with name := r.name ++ [c] }
  else if c == '\x7b' && r.name.isEmpty then { r with naming := .braced }
  else
    let r := r.substitute lookup
    if c == '$' then { r with naming := .bare } else r.put c

def plain (r : Reading) (c : Char) : Reading :=
  if c == '$' then { r with naming := .bare }
  else if c == '\\' then { r with escaped := true }
  else if c == '"' then { r with weak := !r.weak }
  else if r.weak then r.put c
  else if c == '\'' then { r with strong := true }
  else if c == ' ' || c == '\t' then { r with ending := true }
  else r.put c

/-- Reads the characters of a value. After a blank outside quotes, only a comment may follow. -/
def readAll (lookup : String → Option String) (r : Reading) : List Char → Option Reading
  | [] => some r
  | c :: rest =>
    if r.ending then
      if c == '#' then some r
      else if c == ' ' || c == '\t' then readAll lookup r rest
      else .none
    else if r.escaped then
      match r.escape c with
      | some r => readAll lookup r rest
      | .none => .none
    else if r.strong then
      readAll lookup (if c == '\'' then { r with strong := false } else r.put c) rest
    else if r.naming ≠ .none then readAll lookup (r.readName lookup c) rest
    else readAll lookup (r.plain c) rest

def value? (lookup : String → Option String) (s : List Char) : Option String :=
  match readAll lookup {} s with
  | some r =>
    if r.naming = .braced || r.strong || r.weak then .none
    else some (String.ofList (r.substitute lookup).output)
  | .none => .none

end Reading

inductive Line where
  | nothing
  | variable (name value : String)
  | malformed

/-- Reads an entry: a name, after which an equals sign and a value come. The word `export` may stand
before the name. -/
def readEntry (lookup : String → Option String) (s : List Char) : Line :=
  let s := Text.trimLeft (Text.trimRight s)
  if s.isEmpty || s.head? == some '#' then .nothing
  else
    let named := match readName? s with
      | some (name, rest) =>
        let rest := Text.trimLeft rest
        if name == "export".toList && rest.head? != some '=' then
          (readName? rest).map fun (name, rest) => (name, Text.trimLeft rest)
        else some (name, rest)
      | none => none
    match named with
    | some (name, '=' :: rest) =>
      let rest := Text.trimLeft rest
      if rest.isEmpty || rest.head? == some '#' then .variable (String.ofList name) ""
      else
        match Reading.value? lookup rest with
        | some value => .variable (String.ofList name) value
        | none => .malformed
    | _ => .malformed

def isHoldable (value : String) : Bool := !value.toList.contains '\x00'

/-- Adds the variables of entries that are not set; fails where one could not hold its value. A name
stands for the value in the environment, or else for the one that the file gave last. -/
def addAll? (read : Environment) (env : Environment) :
    List (Option (List Char)) → Option Environment
  | [] => some env
  | none :: _ => some env
  | some entry :: rest =>
    let lookup (name : String) : Option String :=
      match env.lookup name with
      | some value => some value
      | none => read.lookup name
    match readEntry lookup entry with
    | .nothing => addAll? read env rest
    | .malformed => some env
    | .variable name value =>
      if (env.lookup name).isSome then addAll? ((name, value) :: read) env rest
      else if isHoldable value then addAll? ((name, value) :: read) (env ++ [(name, value)]) rest
      else none

def lines : List Nat → List (List Nat)
  | [] => []
  | b :: rest =>
    if b == '\n'.toNat then [b] :: lines rest
    else
      match lines rest with
      | [] => [[b]]
      | line :: more => (b :: line) :: more

def byteOrderMark : List Nat := Text.Utf8.encodeChar '\ufeff'

def load? (bytes : List Nat) (env : Environment) : Option Environment :=
  let bytes := if byteOrderMark.isPrefixOf bytes then bytes.drop byteOrderMark.length else bytes
  let texts := (lines bytes).map fun line => (Text.Utf8.decode? line).map String.toList
  addAll? [] env (entries .plain [] texts)

end VariableFile

end FixGrader
