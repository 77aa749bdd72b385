import FixGrader.Shell.Variable

namespace FixGrader.Shell.OptionWord

inductive Found where
  | option (letter : Char) (argument : String)
  | unknown (letter : Char)
  | lacksArgument (letter : Char)
  | noMore
  deriving Repr

/-- Where the next option is looked for: the number of the next word, from one, and how many
characters of the word before that are read, if it holds more letters. -/
structure Place where
  index : Nat
  offset : Option Nat
  deriving Repr

def letters? (words : List String) (p : Place) : Except Nat (Nat × List Char) :=
  let current := (p.offset.bind fun k => words[p.index - 2]?.map fun w => w.toList.drop k).getD []
  if !current.isEmpty then .ok (p.index, current)
  else
    match words[p.index - 1]?.map String.toList with
    | some ['-', '-'] => .error (p.index + 1)
    | some ('-' :: c :: rest) => .ok (p.index + 1, c :: rest)
    | _ => .error p.index

def wants? (wanted : List Char) (letter : Char) : Option Bool :=
  match wanted.dropWhile (· != letter) with
  | _ :: rest => some (rest.head? == some ':')
  | [] => none

def next (wanted : List Char) (words : List String) (p : Place) : Found × Place :=
  match letters? words p with
  | .error index => (.noMore, ⟨index, none⟩)
  | .ok (_, []) => (.noMore, p)
  | .ok (index, c :: rest) =>
    let size := (words[index - 2]?.map String.length).getD 0
    let inWord : Place := ⟨index, some (size - rest.length)⟩
    match wants? wanted c with
    | none => (.unknown c, inWord)
    | some false => (.option c "", inWord)
    | some true =>
      if !rest.isEmpty then (.option c (String.ofList rest), ⟨index, none⟩)
      else
        match words[index - 1]? with
        | some argument => (.option c argument, ⟨index + 1, none⟩)
        | none => (.lacksArgument c, ⟨index, none⟩)

def take (args : List String) : Act Nat := do
  match args with
  | wanted :: name :: words =>
    let s ← get
    let words := if words.isEmpty then s.params else words
    let index := max ((s.param? "OPTIND").bind String.toNat? |>.getD 1) 1
    let offset := s.optionPlace.bind fun p => if p.1 == index then p.2 else none
    let isQuiet := wanted.startsWith ":"
    let (found, place) := next wanted.toList words ⟨index, offset⟩
    let assign := Expansion.assign fun m => Act.refuse ("getopts: " ++ m)
    let drop : Act Unit := modify (·.unset "OPTARG")
    let letter ← match found with
      | .option c argument => do
        assign "OPTARG" argument
        pure c
      | .unknown c => do
        if isQuiet then assign "OPTARG" (String.singleton c)
        else
          Act.write 2 s!"Illegal option -{c}\n"
          drop
        pure '?'
      | .lacksArgument c => do
        if isQuiet then assign "OPTARG" (String.singleton c)
        else
          Act.write 2 s!"No arg for -{c} option\n"
          drop
        pure (if isQuiet then ':' else '?')
      | .noMore => pure '?'
    assign "OPTIND" (toString place.index)
    assign name (String.singleton letter)
    modify fun s => { s with optionPlace := some (place.index, place.offset) }
    return match found with
      | .noMore => 1
      | _ => 0
  | _ =>
    Act.report "getopts: Usage: getopts optstring var [arg...]"
    return 2

end FixGrader.Shell.OptionWord
