import FixGrader.Pattern.CharSet
import FixGrader.Unicode.Age
import FixGrader.Unicode.Break
import FixGrader.Unicode.Category
import FixGrader.Unicode.Property
import FixGrader.Unicode.Script

namespace FixGrader.CharSet

def normalizedName (name : List Char) : List Char :=
  let kept := name.filter fun c => Unicode.isAscii c && c != ' ' && c != '_' && c != '-'
  let kept := kept.map Char.toLower
  match (name.take 2).map Char.toLower with
  | ['i', 's'] => if kept == ['i', 's', 'c'] then kept else kept.drop 2
  | _ => kept

def lookUp? (data : List (List String × List String)) (name : String) : Option CharSet :=
  (data.find? (·.1.contains name)).map fun entry => table (.ofPacked entry.2)

def assigned : CharSet := table (.ofPacked Unicode.assignedData)

def ascii : CharSet := range '\x00' '\x7f'

/-- Besides the listed categories: the code points without one, and the groups that hold them. -/
def category? (name : String) : Option CharSet :=
  match name with
  | "any" => some all
  | "assigned" => some assigned
  | "ascii" => some ascii
  | "cn" | "unassigned" => some (compl assigned)
  | "c" | "other" => do
    let listed ← ["cc", "cf", "co"].mapM (lookUp? Unicode.categoryData)
    some (listed.foldl union (compl assigned))
  | _ => lookUp? Unicode.categoryData name

def script? (name : String) : Option CharSet := lookUp? Unicode.scriptData name

def scriptUse? (name : String) : Option CharSet :=
  (lookUp? Unicode.scriptUseData name).or (script? name)

/-- The characters of the version of Unicode that `name` means and of those before it. -/
def age? (name : String) : Option CharSet := do
  let i ← Unicode.ageData.findIdx? (·.1.contains name)
  let sets := (Unicode.ageData.take (i + 1)).map fun entry => table (.ofPacked entry.2)
  return sets.foldl union nothing

/-- A property comes before a category and a category before a script. `cf`, `sc` and `lc` are
categories only. -/
def named? (name : List Char) : Option CharSet :=
  let name := String.ofList (normalizedName name)
  let property :=
    if name == "cf" || name == "sc" || name == "lc" then none
    else lookUp? Unicode.propertyData name
  property.or ((category? name).or (script? name))

def valued? (name value : List Char) : Option CharSet :=
  let value := String.ofList (normalizedName value)
  match String.ofList (normalizedName name) with
  | "gc" | "generalcategory" => category? value
  | "sc" | "script" => script? value
  | "scx" | "scriptextensions" => scriptUse? value
  | "age" => age? value
  | "gcb" | "graphemeclusterbreak" => lookUp? Unicode.clusterBreakData value
  | "wb" | "wordbreak" => lookUp? Unicode.wordBreakData value
  | "sb" | "sentencebreak" => lookUp? Unicode.sentenceBreakData value
  | _ => none

def asciiWord : CharSet := union letter (union (range '0' '9') (single '_'))

def asciiBlank : CharSet := union (range '\t' '\r') (single ' ')

def asciiClass? (name : List Char) : Option CharSet :=
  match String.ofList name with
  | "alnum" => some (union letter (range '0' '9'))
  | "alpha" => some letter
  | "ascii" => some ascii
  | "blank" => some (oneOf "\t ")
  | "cntrl" => some (union (range '\x00' '\x1f') (single '\x7f'))
  | "digit" => some (range '0' '9')
  | "graph" => some (range '!' '~')
  | "lower" => some (range 'a' 'z')
  | "print" => some (range ' ' '~')
  | "punct" =>
    some (union (union (range '!' '/') (range ':' '@'))
      (union (range '[' '\x60') (range '\x7b' '~')))
  | "space" => some asciiBlank
  | "upper" => some (range 'A' 'Z')
  | "word" => some asciiWord
  | "xdigit" => some (union (range '0' '9') (union (range 'A' 'F') (range 'a' 'f')))
  | _ => none

end FixGrader.CharSet
