import FixGrader.Shell.Arithmetic
import FixGrader.Shell.Glob
import FixGrader.Shell.Session

namespace FixGrader.Shell

inductive Part where
  | text (chars : List Char) (splits : Bool)
  | bare (chars : List Char)
  | next

namespace Part

/-- Fields so far, the last one first, and the field that is not yet complete. -/
structure Fields where
  done : List (List Glob.Sign) := []
  current : Option (List Glob.Sign) := none

namespace Fields

def finish (f : Fields) : Fields :=
  match f.current with
  | some signs => { done := signs.reverse :: f.done }
  | none => f

def append (f : Fields) (active : Bool) (chars : List Char) : Fields :=
  { f with current := some ((chars.map (·, active)).reverse ++ f.current.getD []) }

def split (separators : List Char) (f : Fields) (c : Char) : Fields :=
  if !separators.contains c then f.append true [c]
  else if c == ' ' || c == '\t' || c == '\n' then f.finish
  else { done := (f.current.getD []).reverse :: f.done }

def add (separators : List Char) (f : Fields) : Part → Fields
  | .text chars false => f.append false chars
  | .bare chars => f.append true chars
  | .text chars true => chars.foldl (split separators) f
  | .next => f.finish

end Fields

def fields (separators : List Char) (parts : List Part) : List (List Glob.Sign) :=
  (parts.foldl (Fields.add separators) {}).finish.done.reverse

def joined (parts : List Part) : String :=
  String.ofList (parts.flatMap fun
    | .text chars _ | .bare chars => chars
    | .next => [' '])

end Part

def separators (s : Session) : List Char := ((s.param? "IFS").getD " \t\n").toList

namespace Expansion

def values (s : Session) (name : String) (quoted : Bool) : List Part :=
  if name == "@" || (name == "*" && !quoted) then
    (s.params.map fun p => Part.text p.toList (!quoted)).intersperse .next
  else [.text ((s.param? name).getD "").toList (!quoted)]

def isPresent (s : Session) (name : String) (orEmpty : Bool) : Bool :=
  (s.param? name).any fun v => !(orEmpty && v.isEmpty)

def requireVariable (report : String → Act Unit) (name : String) : Act Unit := do
  if (← get).isConstant name then report s!"{name}: is read only"

def assign (report : String → Act Unit) (name value : String) : Act Unit := do
  requireVariable report name
  modify fun s =>
    let s := s.assign name value
    if s.options.contains 'a' then s.share name else s

def readWord (quoted : Bool) (source : List Char) : Act Word :=
  match Word.ofText quoted source with
  | .ok w => pure w
  | .error fault => Act.fail fault.message

def numberOf (s : Session) (name : String) : Except Arithmetic.Fault Int :=
  let text := (s.param? name).getD ""
  if text.isEmpty then .ok 0
  else match Arithmetic.number? text.toList with
    | some n => .ok n
    | none => .error (.number text)

def sum (source : String) : Act String := do
  let s ← get
  match Arithmetic.eval (numberOf s) source.toList with
  | .error fault => Act.fail (fault.message source)
  | .ok (n, given) =>
    given.forM fun (name, n) => assign Act.fail name (toString n)
    return toString n

def require (name : String) : Act Unit := do
  let s ← get
  if s.options.contains 'u' && name != "@" && name != "*" && (s.param? name).isNone then
    Act.fail s!"{name}: parameter not set"

def home? (s : Session) (user : List Char) : Option String :=
  if user.isEmpty then s.param? "HOME"
  else if user == "root".toList then some "/root"
  else none

/-- Puts a home directory in the place of the name behind a tilde. Where the text does not end a
word, the name has to end in it. -/
def atHome (s : Session) (isLast : Bool) (text : List Char) : Word :=
  match text with
  | '~' :: rest =>
    let user := rest.takeWhile (· != '/')
    let after := rest.drop user.length
    match if after.isEmpty && !isLast then none else home? s user with
    | none => [.literal text false]
    | some home =>
      (if home.isEmpty then [] else [.literal home.toList true]) ++
        if after.isEmpty then [] else [.literal after false]
  | text => [.literal text false]

def withHome (s : Session) : Word → Word
  | .literal text false :: rest => atHome s rest.isEmpty text ++ rest
  | w => w

def withHomes (s : Session) (isFirst : Bool) : Word → Word
  | [] => []
  | .literal text false :: rest =>
    let texts := Text.splitAt ':' text
    let expand (t : List Char × Nat) : Word :=
      if t.2 = 0 && !isFirst then [.literal t.1 false]
      else atHome s (t.2 + 1 < texts.length || rest.isEmpty) t.1
    let parts := (texts.zipIdx.map expand).intersperse [.literal [':'] false]
    parts.flatten.filter (!isEmptyText ·) ++ withHomes s false rest
  | p :: rest => p :: withHomes s false rest
where
  isEmptyText : Piece → Bool
    | .literal [] false => true
    | _ => false

/-- Takes off the shortest or the longest end of `value` that has the form of `pattern`, or its
beginning; what is left is `value` itself if there is none. -/
def trim (atEnd longest : Bool) (pattern : List Glob.Sign) (value : List Char) : List Char :=
  let sizes := List.range (value.length + 1)
  let cut (n : Nat) : List Char × List Char :=
    if atEnd then (value.drop (value.length - n), value.take (value.length - n))
    else (value.take n, value.drop n)
  let found := (if longest then sizes.reverse else sizes).find? fun n =>
    Glob.isMatch pattern (String.ofList (cut n).1)
  (found.map fun n => (cut n).2).getD value

def parts (run : List Char → Act Unit) : (depth : Nat) → Word → Act (List Part)
  | 0, _ => pure []
  | depth + 1, w => do
    let nested (quoted : Bool) (source : List Char) : Act (List Part) := do
      let w ← readWord quoted source
      parts run depth (withHome (← get) w)
    let piece (p : Piece) : Act (List Part) := do
      let s ← get
      match p with
      | .literal text quoted => return [if quoted then .text text false else .bare text]
      | .param name .value quoted =>
        require name
        return values s name quoted
      | .param name .length quoted =>
        require name
        return [.text (toString ((s.param? name).getD "").length).toList (!quoted)]
      | .param name (.otherwise orEmpty alt) quoted =>
        if isPresent s name orEmpty then return values s name quoted else nested quoted alt
      | .param name (.assigned orEmpty value) quoted =>
        if isPresent s name orEmpty then return values s name quoted
        let value := Part.joined (← nested quoted value)
        assign Act.fail name value
        return [.text value.toList (!quoted)]
      | .param name (.required orEmpty message) quoted =>
        if isPresent s name orEmpty then return values s name quoted
        let lack := "parameter not set" ++ if orEmpty then " or null" else ""
        let told := Part.joined (← nested quoted message)
        Act.fail (name ++ ": " ++ if message.isEmpty then lack else told)
      | .param name (.trimmed atEnd longest pattern) quoted =>
        require name
        let value := ((s.param? name).getD "").toList
        let w ← readWord false pattern
        let signs ← (withHome s w).mapM fun p => do
          let chars := (Part.joined (← parts run depth [p])).toList
          return chars.map fun c => (c, !p.isQuoted)
        return [.text (trim atEnd longest signs.flatten value) (!quoted)]
      | .param name (.whenSet orEmpty alt) quoted =>
        if isPresent s name orEmpty then nested quoted alt else return [.text [] (!quoted)]
      | .sum source quoted =>
        let source := Part.joined (← nested true source)
        return [.text (← sum source).toList (!quoted)]
      | .output source quoted =>
        let written ← Act.capture (Act.process (run source))
        return [.text (Text.dropEndWhile (· == '\n') written.toList) (!quoted)]
    return (← w.mapM piece).flatten

def maxNesting : Nat := 64

def joined (run : List Char → Act Unit) (w : Word) : Act String := do
  Act.fit (Part.joined (← parts run maxNesting w))

def text (run : List Char → Act Unit) (w : Word) : Act String := do
  joined run (withHome (← get) w)

def given (run : List Char → Act Unit) (w : Word) : Act String := do
  joined run (withHomes (← get) true w)

def pattern (run : List Char → Act Unit) (w : Word) : Act (List Glob.Sign) := do
  let signs (p : Piece) : Act (List Glob.Sign) := do
    let chars := (← joined run [p]).toList
    return chars.map (·, !p.isQuoted)
  return (← (withHome (← get) w).mapM signs).flatten

def fields (run : List Char → Act Unit) (ws : List Word) : Act (List String) := do
  let expanded ← ws.mapM fun w => do parts run maxNesting (withHome (← get) w)
  let s ← get
  let fields := expanded.flatMap (Part.fields (separators s))
  if s.room < (fields.map List.length).foldl (· + ·) 0 then Act.overflow
  if s.options.contains 'f' then return fields.map fun f => String.ofList (Glob.chars f)
  return fields.flatMap (Glob.expand s.files)

def declarers : List String := ["export", "readonly", "local"]

def declaration (run : List Char → Act Unit) (w : Word) : Act (List String) := do
  match Script.setting? w with
  | some (name, value) => return [s!"{name}={← given run value}"]
  | none => fields run [w]

/-- The fields of the words of a command; where it gives values to variables, these are not
split. -/
def command (run : List Char → Act Unit) : List Word → Act (List String)
  | [] => return []
  | w :: rest => do
    let first ← fields run [w]
    match first.find? (· != "command") with
    | none => return first ++ (← command run rest)
    | some name =>
      if declarers.contains name then
        return first ++ (← rest.mapM (declaration run)).flatten
      else return first ++ (← fields run rest)

end Expansion

end FixGrader.Shell
