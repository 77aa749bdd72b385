import FixGrader.Json.Value

namespace FixGrader.Json

/-- The field names of a record and the fewest items that its array form may have. -/
structure Shape where
  names : List String
  least : Nat

abbrev Fields := List (String × Json)

namespace Shape

def ofObject? (s : Shape) (members : List (Option String × Json)) : Option Fields := do
  let named ← members.mapM fun m => m.1.map (·, m.2)
  let known := named.filter fun m => s.names.contains m.1
  if (known.map (·.1)).Nodup then some known else none

def ofArray? (s : Shape) (items : List Json) : Option Fields :=
  if s.least ≤ items.length && items.length ≤ s.names.length then some (s.names.zip items)
  else none

def fields? (s : Shape) : Json → Option Fields
  | object members => s.ofObject? members
  | array items => s.ofArray? items
  | _ => none

end Shape

namespace Fields

def get? {α : Type} (fs : Fields) (name : String) (f : Json → Option α) : Option α :=
  (fs.lookup name).bind f

/-- A field that is `default` when it is not there. -/
def getD? {α : Type} (fs : Fields) (name : String) (default : α) (f : Json → Option α) :
    Option α :=
  match fs.lookup name with
  | none => some default
  | some j => f j

def find? {α : Type} (fs : Fields) (name : String) (f : Json → Option α) : Option (Option α) :=
  fs.getD? name none (optional? f)

end Fields

end FixGrader.Json
