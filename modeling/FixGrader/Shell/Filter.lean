import FixGrader.Shell.Argument
import FixGrader.Shell.Checksum

namespace FixGrader.Shell.Filter

def readFile (path : String) : Act (Except FileFault Input) := do
  if path == "-" || path == "/dev/stdin" then return .ok (← Act.takeInput) else Act.openFile path

def faultText : FileFault → String
  | .notDirectory => "Not a directory"
  | .isDirectory => "Is a directory"
  | .nameTooLong => "File name too long"
  | _ => "No such file or directory"

/-- Applies `use` to each file, or to the input if none is given. A problem with a file is reported
by its path and its cause. -/
def onFiles (report : String → String → String) (paths : List String)
    (use : String → Input → Act Unit) : Act Nat := do
  let mut status := 0
  for path in (if paths.isEmpty then ["-"] else paths) do
    match ← readFile path with
    | .ok input => use path input
    | .error fault =>
      Act.tell (report path (faultText fault))
      status := 1
  return status

def cannotRead (path cause : String) : String := s!"{path}: {cause}"

def cannotOpen (path cause : String) : String := s!"cannot open '{path}' for reading: {cause}"

def pass (f : List Char → List Char) (i : Input) : Act Unit := do
  Act.print (String.ofList (f i.text))
  if i.endless then throw .endless

def suffix (paths : List String) (path : String) : String :=
  if paths.isEmpty then "" else " " ++ path

def lines : List Char → List (List Char)
  | [] => []
  | c :: rest =>
    if c == '\n' then ['\n'] :: lines rest
    else
      match lines rest with
      | [] => [[c]]
      | line :: more => (c :: line) :: more

/-- A byte so that it can be seen: control characters behind a caret, those above 127 behind a
mark. -/
def visible (tabs : Bool) (c : Char) : List Char :=
  let low (n : Nat) : List Char :=
    if n < 32 then ['^', Char.ofNat (n + 64)] else if n = 127 then ['^', '?'] else [Char.ofNat n]
  if c == '\n' || (c == '\t' && !tabs) then [c]
  else if c.toNat < 128 then low c.toNat
  else ['M', '-'] ++ low (c.toNat - 128)

def numberLines (all : Bool) (n : Nat) : List (List Char) → List (List Char)
  | [] => []
  | line :: rest =>
    if all || line != ['\n'] then
      let digits := toString n
      (("".pushn ' ' (6 - digits.length) ++ digits ++ "\t").toList ++ line) ::
        numberLines all (n + 1) rest
    else line :: numberLines all n rest

def display (has : String → Bool) (text : List Char) : List Char :=
  let mark (line : List Char) : List Char :=
    line.flatMap fun c => if c == '\n' then ['$', '\n'] else [c]
  let text := if has "vetA" then text.flatMap (visible (has "tTA"))
    else if has "T" then text.flatMap fun c => if c == '\t' then ['^', 'I'] else [c]
    else text
  let ls := lines text
  let ls := if has "s" then squeezeBlank ls else ls
  let ls := if has "nb" then numberLines (!has "b") 1 ls else ls
  (if has "EeA" then ls.map mark else ls).flatten
where
  squeezeBlank (ls : List (List Char)) : List (List Char) :=
    (ls.splitBy fun a b => a == ['\n'] && b == ['\n']).flatMap fun g => g.take 1

def cat (args : List String) : Act Nat := do
  let (options, paths) := Argument.split args
  if let some c := Argument.unknown? "nbsuvetAET" options then return ← Argument.badOption c
  let has := Argument.has options
  if !has "nbsvetAET" then onFiles (cannotRead) paths fun _ => pass id
  else
    let buffer ← modifyGet fun s => s.openBuffer ""
    let streams := (← get).streams
    modify fun s => s.connect 1 (some buffer)
    let status ← onFiles (cannotRead) paths fun _ i => do
      Act.print (String.ofList (← Act.whole i))
    modify fun s => { s with streams := streams }
    Act.print (String.ofList (display has ((← get).buffer buffer).toList))
    return status

def checksum (args : List String) : Act Nat :=
  onFiles (cannotRead) args fun path i => do
    let text ← Act.whole i
    let sum := Checksum.ofBytes (String.ofList text)
    Act.print s!"{sum} {text.length}{suffix args path}\n"

def wordCount (s : List Char) : Nat :=
  ((s.splitBy fun a b => isGap a == isGap b).filter fun w => !w.any isGap).length
where
  isGap (c : Char) : Bool := c == ' ' || ('\t' ≤ c && c ≤ '\r')

def counts (options : List Char) (text : List Char) : List Nat :=
  let asked (letters : List Char) : Bool :=
    options.isEmpty || letters.any options.contains
  (if asked ['l'] then [text.countP (· == '\n')] else []) ++
    (if asked ['w'] then [wordCount text] else []) ++
    if asked ['c', 'm'] then [text.length] else []

/-- Several numbers stand in columns of the same width; one number stands alone, unless there are
`several` rows. -/
def inColumns (several : Bool) (width : Nat) (numbers : List Nat) : String :=
  let column (n : Nat) := "".pushn ' ' (width - (toString n).length) ++ toString n
  match numbers with
  | [n] => if several then column n else toString n
  | _ => " ".intercalate (numbers.map column)

def longestLine (text : List Char) : Nat :=
  ((lines text).map fun line => (line.filter (· != '\n')).length).foldl max 0

/-- The width of the columns of `wc`: all of the bytes of the files can be counted in it, and where
something is no file, seven digits. -/
def countWidth (files : List (Option Input)) : Nat :=
  let inputs := files.filterMap id
  let total := (inputs.filterMap Input.size).foldl (· + ·) 0
  max (if inputs.any fun i => i.size.isNone then 7 else 1) (toString total).length

def count (args : List String) : Act Nat := do
  let (options, paths) := Argument.split args
  if let some c := Argument.unknown? "lwcmL" options then return ← Argument.badOption c
  let letters := (options.flatMap String.toList).filter (· != '-')
  let row (text : List Char) : List Nat :=
    counts letters text ++ if letters.contains 'L' then [longestLine text] else []
  let zeros := (row []).map fun _ => 0
  let several := 1 < paths.length
  let mut found : List (String × Except FileFault Input) := []
  for path in (if paths.isEmpty then ["-"] else paths) do
    found := found ++ [(path, ← readFile path)]
  let width := countWidth <| found.map fun f =>
    match f.2 with
    | .ok input => some input
    | .error fault => if fault == .isDirectory then some {} else none
  let write (row : List Nat) (label : String) : Act Unit :=
    Act.print (inColumns several width row ++ label ++ "\n")
  let mut status := 0
  let mut rows : List (List Nat) := []
  for (path, file) in found do
    match file with
    | .ok input =>
      let row := row (← Act.whole input)
      rows := row :: rows
      write row (suffix paths path)
    | .error fault =>
      Act.tell (cannotRead path (faultText fault))
      if fault == .isDirectory then write zeros (" " ++ path)
      status := 1
  if several then
    write (rows.foldl (fun a b => (a.zip b).map fun p => p.1 + p.2) zeros) " total"
  return status

def firstLines (n : Nat) (s : List Char) : List Char :=
  match n, s with
  | 0, _ => []
  | _, [] => []
  | n + 1, c :: rest => c :: if c == '\n' then firstLines n rest else firstLines (n + 1) rest

inductive Side where
  | first
  | last
  | onward
  | butLast
  deriving DecidableEq

/-- How much of a text is meant: so many lines or bytes of it. -/
structure Extent where
  bytes : Bool := false
  side : Side
  number : Nat := 10

def Extent.ofText? (bytes : Bool) (side : Side) (text : String) : Option Extent :=
  match text.toList with
  | '+' :: digits =>
    (Argument.size? (String.ofList digits)).map fun n =>
      ⟨bytes, if side == .last then .onward else side, n⟩
  | '-' :: digits =>
    (Argument.size? (String.ofList digits)).map fun n =>
      ⟨bytes, if side == .first then .butLast else side, n⟩
  | _ => (Argument.size? text).map fun n => ⟨bytes, side, n⟩

inductive ExtentFault where
  | number (bytes : Bool) (text : String)
  | option (letter : Char)

def readExtent (side : Side) (e : Extent) (paths : List String) :
    List String → Except ExtentFault (Extent × List String)
  | [] => .ok (e, paths)
  | [arg] => readLast side e paths arg
  | arg :: next :: rest =>
    if arg == "-n" || arg == "-c" then
      let bytes := arg == "-c"
      match Extent.ofText? bytes side next with
      | some e => readExtent side e paths rest
      | none => .error (.number bytes next)
    else
      match readLast side e paths arg with
      | .ok (e, paths) => readExtent side e paths (next :: rest)
      | .error e => .error e
where
  readLast (side : Side) (e : Extent) (paths : List String) (arg : String) :
      Except ExtentFault (Extent × List String) :=
    let use (bytes : Bool) (text : String) : Except ExtentFault (Extent × List String) :=
      match Extent.ofText? bytes side text with
      | some e => .ok (e, paths)
      | none => .error (.number bytes text)
    match arg.toList with
    | '-' :: 'n' :: n => use false (String.ofList n)
    | '-' :: 'c' :: n => use true (String.ofList n)
    | '-' :: c :: digits =>
      if c.isDigit then use false (String.ofList (c :: digits))
      else if "qvz-".contains c then .ok (e, paths)
      else .error (.option c)
    | _ => .ok (e, paths ++ [arg])

def Extent.of (e : Extent) (s : List Char) : List Char :=
  let ofList (xs : List (List Char)) : List (List Char) :=
    match e.side with
    | .first => xs.take e.number
    | .last => xs.drop (xs.length - e.number)
    | .onward => xs.drop (e.number - 1)
    | .butLast => xs.take (xs.length - e.number)
  if e.side == .first && !e.bytes then firstLines e.number s
  else if e.bytes then (ofList (s.map fun c => [c])).flatten
  else (ofList (lines s)).flatten

def part (side : Side) (args : List String) : Act Nat := do
  match readExtent side { side } [] args with
  | .error (.number bytes text) =>
    let kind := if bytes then "bytes" else "lines"
    Act.tell s!"invalid number of {kind}: '{text}'"
    return 1
  | .error (.option c) => Argument.badOption c
  | .ok (e, paths) =>
    let named := 1 < paths.length
    let mut status := 0
    let mut isFirst := true
    for path in (if paths.isEmpty then ["-"] else paths) do
      match ← readFile path with
      | .error fault =>
        Act.tell <|
          if fault == .isDirectory then s!"error reading '{path}': Is a directory"
          else cannotOpen path (faultText fault)
        status := 1
      | .ok input =>
        if named then
          let label := if path == "-" then "standard input" else path
          Act.print ((if isFirst then "" else "\n") ++ s!"==> {label} <==\n")
        isFirst := false
        let text ← if e.side != .first then Act.keepWhole 1 input
          else if e.bytes then Act.firstBytes e.number input
          else Act.beginning e.of input
        Act.print (String.ofList (e.of text))
    return status

def head : List String → Act Nat := part .first

def tail : List String → Act Nat := part .last

def classBytes (name : String) : List Char :=
  let ascii := (List.range 128).map Char.ofNat
  match name with
  | "upper" => ascii.filter Char.isUpper
  | "lower" => ascii.filter Char.isLower
  | "alpha" => ascii.filter Char.isAlpha
  | "digit" => ascii.filter Char.isDigit
  | "alnum" => ascii.filter Char.isAlphanum
  | "blank" => ['\t', ' ']
  | "space" => ['\t', '\n', '\x0b', '\x0c', '\r', ' ']
  | "cntrl" => ascii.filter fun c => c.toNat < 32 || c.toNat == 127
  | "punct" => ascii.filter fun c => 32 < c.toNat && c.toNat < 127 && !c.isAlphanum
  | _ => []

def interval (a b : Char) : List Char :=
  (List.range (b.toNat + 1 - a.toNat)).map fun n => Char.ofNat (a.toNat + n)

def readSet : (fuel : Nat) → List Char → List Char
  | 0, _ => []
  | _ + 1, [] => []
  | fuel + 1, '[' :: ':' :: rest =>
    let name := rest.takeWhile (· != ':')
    classBytes (String.ofList name) ++ readSet fuel (rest.drop (name.length + 2))
  | fuel + 1, a :: '-' :: b :: rest => interval a b ++ readSet fuel rest
  | fuel + 1, c :: rest => c :: readSet fuel rest

def squeeze (set : List Char) : List Char → List Char
  | a :: b :: rest =>
    if a == b && set.contains a then squeeze set (b :: rest) else a :: squeeze set (b :: rest)
  | s => s

/-- What `tr` makes of bytes: those of the first set become those of the second one, whose last byte
stands for all further ones. -/
def exchange (first second : List Char) (s : List Char) : List Char :=
  let fill := List.replicate (first.length - second.length) (second.getLastD '\x00')
  let pairs := (first.zip (second ++ fill)).reverse
  s.map fun c => (pairs.lookup c).getD c

def transliterate (unescape : List Char → List Char) (args : List String) : Act Nat := do
  let (options, sets) := args.span fun a => a.startsWith "-" && a != "-" && a != "--"
  let sets := if sets.head? == some "--" then sets.drop 1 else sets
  let has (letters : List Char) : Bool := options.any fun o => letters.any fun c => o.contains c
  if let some c := Argument.unknown? "cCdst" options then return ← Argument.badOption c
  let most := if has ['d'] && !has ['s'] then 1 else 2
  let least := if has ['d'] != has ['s'] then 1 else 2
  if sets.length < least then
    match sets.getLast? with
    | none => return ← Argument.misuse "missing operand"
    | some last =>
      Act.tell s!"missing operand after '{last}'"
      Act.write 2 <| if has ['d'] then
          "Two strings must be given when both deleting and squeezing repeats.\n"
        else "Two strings must be given when translating.\n"
      Argument.hint
      return 1
  if let some extra := sets[most]? then
    if most = 2 then return ← Argument.misuse s!"extra operand '{extra}'"
    Act.tell s!"extra operand '{extra}'"
    Act.write 2 "Only one string may be given when deleting without squeezing repeats.\n"
    Argument.hint
    return 1
  let sets := sets.map fun s =>
    let chars := unescape s.toList
    readSet (chars.length + 1) chars
  let first := sets.headD []
  let first := if has ['c', 'C'] then (interval '\x00' '\xff').filter (!first.contains ·) else first
  let change (s : List Char) : List Char :=
    let s := if has ['d'] then s.filter (!first.contains ·)
      else match sets with
        | _ :: second :: _ => exchange first second s
        | _ => s
    if has ['s'] then squeeze (if sets.length < 2 then first else sets.getLastD []) s else s
  pass change (← Act.takeInput)
  return 0

def bareLines (s : List Char) : List (List Char) :=
  (lines s).map fun line => line.takeWhile (· != '\n')

def joinLines (ls : List (List Char)) : List Char := ls.flatMap (· ++ ['\n'])

def yes (args : List String) : Act Nat := do
  let line := (if args.isEmpty then "y" else " ".intercalate args) ++ "\n"
  Act.print (String.join (List.replicate (Act.longInput / line.length + 1) line))
  throw .endless

def namesIn (files : FileTree) (options : List String) (path : List String) : List String :=
  let has := Argument.has options
  let own := if has "a" then [".", ".."] else []
  let mark (name : String) : String :=
    if !has "Fp" then name
    else if files.node? (path ++ [name]) == some .directory then name ++ "/"
    else if has "F" && files.isExecutable ("/" ++ "/".intercalate (path ++ [name])) then name ++ "*"
    else name
  let names := own ++ (files.children path).filter fun n => has "aA" || !n.startsWith "."
  (if has "r" then names.reverse else names).map mark

def directoriesBelow (files : FileTree) : (fuel : Nat) → String → List String →
    List (String × List String)
  | 0, _, _ => []
  | fuel + 1, label, path =>
    let inner := (files.children path).filter fun n =>
      !n.startsWith "." && files.node? (path ++ [n]) == some .directory
    (label, path) :: inner.flatMap fun n =>
      directoriesBelow files fuel (label ++ "/" ++ n) (path ++ [n])

def list (args : List String) : Act Nat := do
  let (options, paths) := Argument.split args
  let known := "aAdFpRr1lhtSuUcikmnogqsvwxCfGHLNQTXZB"
  if let some c := Argument.unknown? known options then
    discard <| Argument.badOption c
    return 2
  let files := (← get).files
  let paths := (if paths.isEmpty then ["."] else paths).mergeSort fun a b => a ≤ b
  let mut status := 0
  let mut plain : List String := []
  let mut directories : List (String × List String) := []
  for path in paths do
    match files.resolve path with
    | .error fault =>
      Act.tell s!"cannot access '{path}': {faultText fault}"
      status := 2
    | .ok names =>
      if files.node? names == some .directory && !Argument.has options "d" then
        directories := directories ++ [(path, names)]
      else plain := plain ++ [path]
  let deep := Argument.has options "R"
  let all := if deep then
      directories.flatMap fun d => directoriesBelow files (files.nodes.length + 1) d.1 d.2
    else directories
  for path in plain do
    Act.print (path ++ "\n")
  let mut isFirst := plain.isEmpty
  for (label, path) in all do
    if 1 < paths.length || deep then
      Act.print ((if isFirst then "" else "\n") ++ label ++ ":\n")
    isFirst := false
    for name in namesIn files options path do
      Act.print (name ++ "\n")
  return status

end FixGrader.Shell.Filter
