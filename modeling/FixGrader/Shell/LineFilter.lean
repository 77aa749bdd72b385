import FixGrader.Shell.Filter

namespace FixGrader.Shell.LineFilter

def onLines (report : String → String → String) (paths : List String)
    (f : List (List Char) → List (List Char)) : Act Nat :=
  Filter.onFiles report paths fun _ i => do
    Act.print (String.ofList (Filter.joinLines (f (Filter.bareLines (← Act.whole i)))))

def readRange? (s : List Char) : Option (Nat × Option Nat) := do
  match (Text.splitAt '-' s).map String.ofList with
  | [a] =>
    let n ← a.toNat?
    return (n, some n)
  | [a, b] =>
    let least ← if a.isEmpty then some 1 else a.toNat?
    let greatest ← if b.isEmpty then some none else b.toNat?.map some
    return (least, greatest)
  | _ => none

def holds (ranges : List (Nat × Option Nat)) (n : Nat) : Bool :=
  ranges.any fun r => r.1 ≤ n && r.2.all (n ≤ ·)

def choose {α : Type} (ranges : List (Nat × Option Nat)) (xs : List α) : List α :=
  ((xs.zipIdx 1).filter fun x => holds ranges x.2).map (·.1)

/-- Parts of a line: characters, or fields between separators. A line without a separator is kept,
unless it is to be left out. -/
def cutLine (ranges : List (Nat × Option Nat)) (separator : Option Char) (leavesOut : Bool)
    (line : List Char) : Option (List Char) :=
  match separator with
  | none => some (choose ranges line)
  | some c =>
    if !line.contains c then if leavesOut then none else some line
    else some (List.intercalate [c] (choose ranges (Text.splitAt c line)))

def cut (args : List String) : Act Nat := do
  let (bytes, args) := Argument.take 'b' args
  let (chars, args) := Argument.take 'c' args
  let (fields, args) := Argument.take 'f' args
  let (separator, args) := Argument.take 'd' args
  let (options, paths) := Argument.split args
  let places := fields <|> chars <|> bytes
  match places.map fun p => (Text.splitAt ',' p.toList).mapM readRange? with
  | none => Argument.misuse "you must specify a list of bytes, characters, or fields"
  | some none =>
    Argument.misuse "invalid byte, character or field list"
  | some (some ranges) =>
    let c := fields.map fun _ => ((separator.getD "\t").toList.headD '\t')
    onLines Filter.cannotRead paths fun lines =>
      lines.filterMap (cutLine ranges c (Argument.has options "s"))

def groups (folded : Bool) (lines : List (List Char)) : List (List (List Char)) :=
  let key (line : List Char) : List Char := if folded then line.map Char.toLower else line
  lines.splitBy fun a b => key a == key b

def unique (args : List String) : Act Nat := do
  let (options, paths) := Argument.split args
  let has := Argument.has options
  onLines Filter.cannotRead paths fun lines =>
    (groups (has "i") lines).filterMap fun g => do
      let line ← g.head?
      if (has "d" && g.length ≤ 1) || (has "u" && 1 < g.length) then none
      else if has "c" then
        let n := toString g.length
        return ("".pushn ' ' (7 - n.length) ++ n ++ " ").toList ++ line
      else return line

def reverse (args : List String) : Act Nat :=
  let report (path cause : String) : String := s!"failed to open '{path}' for reading: {cause}"
  Filter.onFiles report args fun _ i => do
    Act.print (String.ofList (Filter.lines (← Act.whole i)).reverse.flatten)

def mirror (args : List String) : Act Nat :=
  let turn (line : List Char) : List Char :=
    let (content, ending) := line.span (· != '\n')
    content.reverse ++ ending
  Filter.onFiles (fun path cause => s!"cannot open {path}: {cause}") args fun _ i => do
    Act.print (String.ofList ((Filter.lines (← Act.whole i)).map turn).flatten)

structure Numbering where
  all : Bool := false
  first : Nat := 1
  step : Nat := 1
  width : Nat := 6
  separator : String := "\t"
  padding : Option Char := some ' '

/-- Numbers the lines that hold something, or all of them; the others are indented like them. -/
def Numbering.apply (k : Numbering) (n : Nat) : List (List Char) → List (List Char)
  | [] => []
  | line :: rest =>
    if k.all || !line.isEmpty then
      let digits := toString n
      let fill := k.width - digits.length
      let label := match k.padding with
        | some c => "".pushn c fill ++ digits ++ k.separator
        | none => digits ++ "".pushn ' ' fill ++ k.separator
      (label.toList ++ line) :: k.apply (n + k.step) rest
    else List.replicate (k.width + k.separator.length) ' ' :: k.apply n rest

def number (args : List String) : Act Nat := do
  let (style, args) := Argument.take 'b' args
  let (first, args) := Argument.take 'v' args
  let (step, args) := Argument.take 'i' args
  let (width, args) := Argument.take 'w' args
  let (separator, args) := Argument.take 's' args
  let (format, args) := Argument.take 'n' args
  let natural (text : Option String) (default : Nat) : Nat := (text.bind String.toNat?).getD default
  let k : Numbering :=
    { all := style == some "a"
      first := natural first 1
      step := natural step 1
      width := natural width 6
      separator := separator.getD "\t"
      padding := if format == some "ln" then none
        else some (if format == some "rz" then '0' else ' ') }
  onLines Filter.cannotRead args (k.apply k.first)

end FixGrader.Shell.LineFilter
