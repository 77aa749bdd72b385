import FixGrader.Json.Value

namespace FixGrader.Toml

inductive Origin where
  | header
  | parent
  | dotted
  deriving DecidableEq

inductive Node where
  | value (v : Json)
  | table (o : Origin) (entries : List (String × Node))
  | tables (items : List (List (String × Node)))
  deriving Inhabited

abbrev Entries := List (String × Node)

namespace Entries

def put (es : Entries) (key : String) (node : Node) : Entries :=
  if es.any (·.1 == key) then es.map fun e => if e.1 == key then (key, node) else e
  else es ++ [(key, node)]

def changeLast (f : Entries → Option Entries) (items : List Entries) : Option (List Entries) :=
  match items.reverse with
  | [] => none
  | last :: before => (f last).map fun last => (last :: before).reverse

/-- Adds a value under the dotted key `path`, `key`. The table that takes it was made by dotted
keys, unless the key has no dot. -/
def insert? (es : Entries) (path : List String) (key : String) (v : Json) : Option Entries :=
  match path with
  | [] => if (es.lookup key).isSome then none else some (es.put key (.value v))
  | p :: ps =>
    match es.lookup p with
    | none => (insert? [] ps key v).map fun t => es.put p (.table .dotted t)
    | some (.table o t) =>
      if o = .header || (o = .parent && ps.isEmpty) then none
      else (insert? t ps key v).map fun t => es.put p (.table o t)
    | some (.tables ts) =>
      if ps.isEmpty then none
      else (changeLast (insert? · ps key v) ts).map fun ts => es.put p (.tables ts)
    | some (.value _) => none

/-- Goes to the table at `path`, through the last table of each list of tables, makes missing
parents and lets `f` change that table. -/
def under? (f : Entries → Option Entries) (es : Entries) (path : List String) : Option Entries :=
  match path with
  | [] => f es
  | p :: ps =>
    match es.lookup p with
    | none => (under? f [] ps).map fun t => es.put p (.table .parent t)
    | some (.table o t) => (under? f t ps).map fun t => es.put p (.table o t)
    | some (.tables ts) => (changeLast (under? f · ps) ts).map fun ts => es.put p (.tables ts)
    | some (.value _) => none

def openTable? (key : String) (es : Entries) : Option Entries :=
  match es.lookup key with
  | none => some (es.put key (.table .header []))
  | some (.table .parent t) => some (es.put key (.table .header t))
  | some _ => none

def openItem? (key : String) (es : Entries) : Option Entries :=
  match es.lookup key with
  | none => some (es.put key (.tables [[]]))
  | some (.tables ts) => some (es.put key (.tables (ts ++ [[]])))
  | some _ => none

end Entries

mutual

def Node.toJson : Node → Json
  | .value v => v
  | .table _ es => .object (membersOf es)
  | .tables ts => .array (itemsOf ts)

def membersOf : List (String × Node) → List (Option String × Json)
  | [] => []
  | (key, node) :: es => (some key, node.toJson) :: membersOf es

def itemsOf : List (List (String × Node)) → List Json
  | [] => []
  | es :: ts => .object (membersOf es) :: itemsOf ts

end

end FixGrader.Toml
