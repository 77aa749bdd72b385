import FixGrader.Toml.Scalar
import FixGrader.Toml.Table

namespace FixGrader.Toml

open Reading

def isBareKey (c : Char) : Bool := c.isAlphanum || c == '_' || c == '-'

def simpleKey : Reading String := do
  match ← peek? with
  | some '"' =>
    let _ ← next
    return String.ofList (← quoted ((← get).length + 1))
  | some '\'' =>
    let _ ← next
    return String.ofList (← literal)
  | _ =>
    let key ← run isBareKey
    if key.isEmpty then failure else return String.ofList key

/-- Greatest number of the parts of a key, and greatest nesting of arrays and tables in braces. -/
def maxDepth : Nat := 79

/-- A key with dots: all its parts but the last, and the last. `room` is the greatest number of
parts. -/
def dottedKey (room : Nat := maxDepth) : Reading (List String × String) :=
  match room with
  | 0 => failure
  | room + 1 => do
    space
    let key ← simpleKey
    space
    if ← accept "." then
      let (path, last) ← dottedKey room
      return (key :: path, last)
    else return ([], key)

def gap (fuel : Nat) : Reading Unit :=
  match fuel with
  | 0 => return ()
  | fuel + 1 => do
    skip fun c => isSpace c || c == '\n'
    if (← peek?) == some '#' then
      comment
      if ← atLineEnd then gap fuel else failure

mutual

def value (room fuel : Nat) : Reading Json :=
  match fuel with
  | 0 => failure
  | fuel + 1 => do
    match ← peek? with
    | some '"' | some '\'' => return .str (String.ofList (← text))
    | some '[' =>
      if room == 0 then failure
      let _ ← next
      return .array (← arrayItems (room - 1) fuel)
    | some '{' =>
      if room == 0 then failure
      let _ ← next
      space
      if ← accept "\x7d" then return .object []
      return (Node.table .header (← pairs (room - 1) fuel [])).toJson
    | some 't' => expect "true"; return .bool true
    | some 'f' => expect "false"; return .bool false
    | _ =>
      match ← attempt moment with
      | some v => return v
      | none => number

def arrayItems (room fuel : Nat) : Reading (List Json) :=
  match fuel with
  | 0 => failure
  | fuel + 1 => do
    gap (← get).length
    if ← accept "]" then return []
    let v ← value room fuel
    gap (← get).length
    if ← accept "," then return v :: (← arrayItems room fuel)
    expect "]"
    return [v]

def pairs (room fuel : Nat) (es : Entries) : Reading Entries :=
  match fuel with
  | 0 => failure
  | fuel + 1 => do
    let (path, key) ← dottedKey
    expect "="
    space
    let es ← es.insert? path key (← value room fuel)
    space
    if ← accept "," then pairs room fuel es
    else
      expect "\x7d"
      return es

end

def statement (current : List String) (es : Entries) : Reading (List String × Entries) := do
  if ← accept "[[" then
    let (path, key) ← dottedKey
    expect "]]"
    return (path ++ [key], ← Entries.under? (Entries.openItem? key) es path)
  else if ← accept "[" then
    let (path, key) ← dottedKey
    expect "]"
    return (path ++ [key], ← Entries.under? (Entries.openTable? key) es path)
  else
    let (path, key) ← dottedKey
    expect "="
    space
    let v ← value maxDepth (2 * (← get).length + 2)
    return (current, ← Entries.under? (fun es => es.insert? path key v) es current)

def statements (fuel : Nat) (current : List String) (es : Entries) : Reading Entries :=
  match fuel with
  | 0 => failure
  | fuel + 1 => do
    gap (← get).length
    if (← peek?).isNone then return es
    let (current, es) ← statement current es
    space
    comment
    if ← atLineEnd then statements fuel current es else failure

def parse? (s : String) : Option Json := do
  let chars := unifyLines (match s.toList with
    | '\ufeff' :: rest => rest
    | chars => chars)
  let (es, _) ← statements (chars.length + 1) [] [] chars
  return (Node.table .header es).toJson

end FixGrader.Toml
