import FixGrader.Files

namespace FixGrader.Shell.Glob

abbrev Sign := Char × Bool

def readSet (first : Bool) : (fuel : Nat) → List Sign → Option (List (Char × Char) × List Sign)
  | 0, _ => none
  | _ + 1, [] => none
  | fuel + 1, (c, active) :: rest =>
    if c == ']' && active && !first then some ([], rest)
    else
      match rest with
      | ('-', true) :: (d, _) :: after =>
        if d == ']' then (readSet false fuel rest).map fun (s, r) => ((c, c) :: s, r)
        else (readSet false fuel after).map fun (s, r) => ((c, d) :: s, r)
      | rest => (readSet false fuel rest).map fun (s, r) => ((c, c) :: s, r)

def readBrackets (s : List Sign) : Option (Bool × List (Char × Char) × List Sign) :=
  match s with
  | ('!', true) :: rest => (readSet true (rest.length + 1) rest).map (true, ·)
  | rest => (readSet true (rest.length + 1) rest).map (false, ·)

def accepts : (fuel : Nat) → List Sign → List Char → Bool
  | 0, _, _ => false
  | _ + 1, [], text => text.isEmpty
  | fuel + 1, ('*', true) :: rest, text =>
    accepts fuel rest text ||
      match text with
      | [] => false
      | _ :: after => accepts fuel (('*', true) :: rest) after
  | _ + 1, _ :: _, [] => false
  | fuel + 1, (p, active) :: rest, c :: after =>
    let literally := p == c && accepts fuel rest after
    if p == '?' && active then accepts fuel rest after
    else if p == '[' && active then
      match readBrackets rest with
      | some (negated, ranges, rest) =>
        (ranges.any fun r => r.1 ≤ c && c ≤ r.2) != negated && accepts fuel rest after
      | none => literally
    else literally

def isMatch (pattern : List Sign) (text : String) : Bool :=
  accepts (pattern.length + text.length + 1) pattern text.toList

def isActive (s : List Sign) : Bool := s.any fun (c, active) => active && "*?[".contains c

def chars (s : List Sign) : List Char := s.map (·.1)

def segments : List Sign → List (List Sign)
  | [] => [[]]
  | (c, active) :: rest =>
    match segments rest with
    | [] => [[(c, active)]]
    | s :: more => if c == '/' then [] :: s :: more else ((c, active) :: s) :: more

def namesIn (files : FileTree) (dir : String) (pattern : List Sign) : List String :=
  match files.resolve (if dir.isEmpty then "." else dir) with
  | .error _ => []
  | .ok path =>
    if files.node? path == some .directory then
      (files.children path).filter fun name =>
        isMatch pattern name && (!name.startsWith "." || pattern.head?.any (·.1 == '.'))
    else []

/-- The paths below `dir`, which is empty or ends with a slash, whose parts have the given forms. -/
def paths (files : FileTree) (dir : String) : List (List Sign) → List String
  | [] => []
  | [last] =>
    if isActive last then (namesIn files dir last).map (dir ++ ·)
    else
      let path := dir ++ String.ofList (chars last)
      if files.exists? path then [path] else []
  | s :: more =>
    if isActive s then
      (namesIn files dir s).flatMap fun name => paths files (dir ++ name ++ "/") more
    else paths files (dir ++ String.ofList (chars s) ++ "/") more

/-- The paths of files that have the form of a pattern, or the pattern itself if there are none. -/
def expand (files : FileTree) (pattern : List Sign) : List String :=
  let plain := String.ofList (chars pattern)
  if !isActive pattern then [plain]
  else
    match paths files "" (segments pattern) with
    | [] => [plain]
    | found => found

end FixGrader.Shell.Glob
