import FixGrader.Shell.Filter
import FixGrader.Shell.LinePattern

namespace FixGrader.Shell.LineSearch

structure Query where
  options : List Char := []
  patterns : List String := []
  most : Option Nat := none
  paths : List String := []

def Query.ofArgs (q : Query) : List String → Query
  | [] => q
  | "-e" :: p :: rest => ofArgs { q with patterns := q.patterns ++ [p] } rest
  | "-m" :: n :: rest => ofArgs { q with most := n.toNat? } rest
  | "--" :: rest => ofArgs { q with paths := q.paths ++ rest } []
  | arg :: rest =>
    match arg.toList with
    | '-' :: 'm' :: n => ofArgs { q with most := (String.ofList n).toNat? } rest
    | '-' :: c :: letters => ofArgs { q with options := q.options ++ c :: letters } rest
    | _ =>
      if q.patterns.isEmpty && q.paths.isEmpty then ofArgs { q with patterns := [arg] } rest
      else ofArgs { q with paths := q.paths ++ [arg] } rest
termination_by args => args.length

def Query.pattern? (q : Query) : Option FixGrader.Pattern := do
  let has (c : Char) : Bool := q.options.contains c
  let lines := q.patterns.flatMap fun p => (Text.splitAt '\n' p.toList).map String.ofList
  let read (line : String) : Option FixGrader.Pattern :=
    if has 'F' then
      some (.inSequence (line.toList.map fun c =>
        .one (if has 'i' then .folded (.single c) else .single c)))
    else LinePattern.read (has 'E') (has 'i') line
  let p := FixGrader.Pattern.anyOf (← lines.mapM read)
  if has 'x' then
    return .inSequence [.assert .textStart, p, .assert .textEnd]
  else if has 'w' then
    let edge := FixGrader.Pattern.assert (.edge .boundary LinePattern.wordSet)
    return .inSequence [edge, p, edge]
  else return p

/-- The parts of a line that match, from the first on. Every step takes a character. -/
def matchesIn (p : FixGrader.Pattern) : (fuel : Nat) → Option Char → List Char → List (List Char)
  | 0, _, _ => []
  | fuel + 1, before, line =>
    match LinePattern.find p before line with
    | none => []
    | some (_, [], []) => []
    | some (_, [], c :: rest) => matchesIn p fuel (some c) rest
    | some (_, found, rest) => found :: matchesIn p fuel found.getLast? rest

def grep (args : List String) : Act Nat := do
  let q := Query.ofArgs {} args
  let has (c : Char) : Bool := q.options.contains c
  match q.pattern? with
  | none =>
    Act.tell "Invalid regular expression"
    return 2
  | some p =>
    if q.patterns.isEmpty then
      let name := (← get).name
      Act.write 2 s!"Usage: {name} [OPTION]... PATTERNS [FILE]...\n"
      Argument.hint
      return 2
    let named := (1 < q.paths.length || has 'H') && !has 'h'
    let mut found := false
    let mut failed := false
    for path in (if q.paths.isEmpty then ["-"] else q.paths) do
      match ← Filter.readFile path with
      | .error fault =>
        if !has 's' then Act.tell s!"{path}: {Filter.faultText fault}"
        failed := true
      | .ok input =>
        let label := if path == "-" then "(standard input)" else path
        let front := if named then label ++ ":" else ""
        let lines := Filter.bareLines (← Act.whole input)
        let hits := (lines.zipIdx 1).filter fun l =>
          (!(p.ends l.1).isEmpty) != has 'v'
        let hits := (q.most.map fun n => hits.take n).getD hits
        if !hits.isEmpty then found := true
        if has 'q' then pure ()
        else if has 'c' then Act.print s!"{front}{hits.length}\n"
        else if has 'l' then
          if !hits.isEmpty then Act.print (label ++ "\n")
        else
          for (line, n) in hits do
            let number := if has 'n' then s!"{n}:" else ""
            let texts := if has 'o' then matchesIn p (line.length + 1) none line else [line]
            for text in texts do
              Act.print (front ++ number ++ String.ofList text ++ "\n")
    if has 'q' && found then return 0
    return if failed then 2 else if found then 0 else 1

end FixGrader.Shell.LineSearch
