import FixGrader.Shell.Session

namespace FixGrader.Shell.Argument

def has (options : List String) (letters : String) : Bool :=
  options.any fun o => o.toList.any fun c => c != '-' && letters.contains c

def split (args : List String) : List String × List String :=
  let (options, operands) := args.partition fun a => a.startsWith "-" && a != "-" && a != "--"
  (options, operands.filter (· != "--"))

/-- The option of a program with its value, written together or apart, and the other arguments. -/
def take (letter : Char) : List String → Option String × List String
  | [] => (none, [])
  | arg :: rest =>
    let (value, others) := take letter rest
    match arg.toList with
    | ['-', c] => if c == letter then (rest.head?, rest.drop 1) else (value, arg :: others)
    | '-' :: c :: d :: text =>
      if c == letter then (some (String.ofList (d :: text)), rest) else (value, arg :: others)
    | _ => (value, arg :: others)

def size? (s : String) : Option Nat :=
  let digits := s.toList.takeWhile Char.isDigit
  let unit := match String.ofList (s.toList.drop digits.length) with
    | "" | "c" => some 1
    | "b" => some 512
    | "k" | "K" | "KiB" => some 0x400
    | "kB" | "KB" => some 1000
    | "M" | "MiB" => some 0x100000
    | "MB" => some 1000000
    | "G" | "GiB" => some 0x40000000
    | "GB" => some 1000000000
    | _ => none
  if digits.isEmpty then none
  else unit.map fun u => u * digits.foldl (fun n c => 10 * n + (c.toNat - '0'.toNat)) 0

def hint : Act Unit := do
  Act.write 2 s!"Try '{(← get).name} --help' for more information.\n"

def misuse (problem : String) : Act Nat := do
  Act.tell problem
  hint
  return 1

def unknown? (known : String) (options : List String) : Option Char :=
  (options.filter fun o => !o.startsWith "--").findSome? fun o =>
    o.toList.find? fun c => c != '-' && !known.contains c

def badOption (option : Char) : Act Nat :=
  misuse ("invalid option -- '" ++ String.singleton option ++ "'")

end FixGrader.Shell.Argument
