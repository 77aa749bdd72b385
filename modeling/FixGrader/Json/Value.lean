namespace FixGrader

/-- `decimal` is any number with a fraction, an exponent or the sign of a zero. -/
inductive Json.Number where
  | natural (n : Nat)
  | negative (n : Nat)
  | decimal (written : List Char)
  deriving DecidableEq, Repr, Inhabited

inductive Json where
  | null
  | bool (b : Bool)
  | number (n : Json.Number)
  | string (text : Option String)
  | array (items : List Json)
  | object (members : List (Option String × Json))
  deriving Repr, Inhabited

namespace Json

def nat (n : Nat) : Json := number (.natural n)

def int : Int → Json
  | .ofNat n => nat n
  | .negSucc n => number (.negative (n + 1))

def str (s : String) : Json := string (some s)

def obj (members : List (String × Json)) : Json :=
  object (members.map fun m => (some m.1, m.2))

def orNull {α : Type} (f : α → Json) : Option α → Json
  | none => null
  | some a => f a

def str? : Json → Option String
  | string s => s
  | _ => none

def bool? : Json → Option Bool
  | bool b => some b
  | _ => none

/-- A whole number not written with a minus sign. -/
def nat? : Json → Option Nat
  | number (.natural n) => some n
  | _ => none

def int? : Json → Option Int
  | number (.natural n) => some n
  | number (.negative n) => some (-n)
  | _ => none

def array? : Json → Option (List Json)
  | array items => some items
  | _ => none

def nat32? (j : Json) : Option Nat := j.nat?.filter (· < UInt32.size)

def optional? {α : Type} (f : Json → Option α) : Json → Option (Option α)
  | null => some none
  | j => (f j).map some

def listOf? {α : Type} (f : Json → Option α) (j : Json) : Option (List α) :=
  j.array?.bind (·.mapM f)

/-- The value of the last member called `key`. -/
def member? (key : String) : Json → Option Json
  | object members => (members.reverse.find? fun m => m.1 == some key).map (·.2)
  | _ => none

end Json

end FixGrader
