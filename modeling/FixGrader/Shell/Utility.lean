import FixGrader.Shell.Condition
import FixGrader.Shell.LineFilter
import FixGrader.Shell.LineOrder
import FixGrader.Shell.LineSearch
import FixGrader.Shell.NameProgram
import FixGrader.Shell.Sequence

namespace FixGrader.Shell.Utility

def ofBool (b : Bool) : Nat := if b then 0 else 1

def unescaped (e : Format.Escapes) (words : List String) : List Char × Bool :=
  match words with
  | [] => ([], false)
  | w :: rest =>
    match Format.unescape e (w.length + 1) w.toList with
    | (text, true) => (text, true)
    | (text, false) =>
      let (more, stop) := unescaped e rest
      (if rest.isEmpty then text else text ++ ' ' :: more, stop)

def shellEcho (args : List String) : Act Nat := do
  let (quiet, words) := match args with
    | "-n" :: rest => (true, rest)
    | rest => (false, rest)
  let (text, stop) := unescaped { inArgument := true } words
  Act.print (String.ofList text ++ if quiet || stop then "" else "\n")
  return 0

def isEchoOption (s : String) : Bool :=
  match s.toList with
  | '-' :: c :: rest => (c :: rest).all ['n', 'e', 'E'].contains
  | _ => false

def echo (args : List String) : Act Nat := do
  let options := (args.takeWhile isEchoOption).flatMap String.toList
  let words := args.dropWhile isEchoOption
  let escapes := ((options.filter (· != 'n')).filter (· != '-')).getLast? == some 'e'
  let (text, stop) :=
    if escapes then unescaped ⟨true, true⟩ words else ((" ".intercalate words).toList, false)
  Act.print (String.ofList text ++ if options.contains 'n' || stop then "" else "\n")
  return 0

def shellPrintf (args : List String) : Act Nat := do
  let report (problem : String) : Act Unit := Act.report ("printf: " ++ problem)
  let option? (arg : String) : Option Char := if arg.startsWith "-" then arg.toList[1]? else none
  match args.head?.bind option?, if args.head? == some "--" then args.drop 1 else args with
  | _, [] =>
    report "usage: printf format [arg ...]"
    return 2
  | option, format :: args =>
    if let some c := option then
      if c != '-' then
        report s!"Illegal option -{c}"
        return 2
    let o := Format.run {} format args
    Act.print o.text
    for fault in o.faults ++ o.refusal.toList do
      report fault.message
    return if o.refusal.isSome then 2 else ofBool o.faults.isEmpty

def printfDialect : Format.Dialect :=
  { escapes := { hexadecimal := true }, ends := true, precision := .extended }

def printf (args : List String) : Act Nat := do
  match if args.head? == some "--" then args.drop 1 else args with
  | [] => Argument.misuse "missing operand"
  | format :: args =>
    let o := Format.run printfDialect format args
    Act.print o.text
    for fault in o.faults ++ o.refusal.toList do
      Act.tell fault.told
    if !o.isOver && !o.used then
      if let some first := args.head? then
        Act.tell s!"warning: ignoring excess arguments, starting with '{first}'"
    return ofBool (o.faults.isEmpty && o.refusal.isNone)

def workDir : Act Nat := do
  Act.print ((← get).directory ++ "\n")
  return 0

def pathName (args : List String) : Act Nat := do
  let (options, operands) := Argument.split args
  if let some c := Argument.unknown? "LP" options then return ← Argument.badOption c
  if !operands.isEmpty then Act.tell "ignoring non-option arguments"
  workDir

def unitMillis (unit : List Char) : Option Nat :=
  match unit with
  | [] | ['s'] => some 1000
  | ['m'] => some 60000
  | ['h'] => some 3600000
  | ['d'] => some 86400000
  | _ => none

/-- The milliseconds of a pause such as `0.25` or `2m`; a started one counts as a whole. -/
def pauseMillis? (s : String) : Option Nat :=
  let chars := s.toList
  let whole := chars.takeWhile Char.isDigit
  let rest := chars.drop whole.length
  let (places, unit) := match rest with
    | '.' :: rest => (rest.takeWhile Char.isDigit, rest.dropWhile Char.isDigit)
    | rest => ([], rest)
  if whole.isEmpty && places.isEmpty then none else
  (unitMillis unit).map fun u =>
    let n := (Arithmetic.ofDigits 10 (whole ++ places)).toNat * u
    let parts := Nat.pow 10 places.length
    (n + parts - 1) / parts

def sleep (args : List String) : Act Nat := do
  if args.isEmpty then return ← Argument.misuse "missing operand"
  if let some ('-' :: c :: _) := (args.map String.toList).find? (·.head? == some '-') then
    return ← Argument.badOption c
  if args.contains "infinity" then throw .overdue
  match args.find? fun a => (pauseMillis? a).isNone with
  | some bad => Argument.misuse s!"invalid time interval '{bad}'"
  | none =>
    Act.pause ((args.filterMap pauseMillis?).foldl (· + ·) 0)
    return 0

def environment : Act Nat := do
  for b in (← get).bindings do
    if let (true, some value) := (b.exported, b.value) then Act.print s!"{b.name}={value}\n"
  return 0

def printenv (args : List String) : Act Nat := do
  if args.isEmpty then return ← environment
  let mut status := 0
  for name in args do
    match ((← get).binding? name).bind Binding.value with
    | some value => Act.print (value ++ "\n")
    | none => status := 1
  return status

def program? (name : String) : Option (List String → Act Nat) :=
  match name with
  | "true" => some fun _ => return 0
  | "false" => some fun _ => return 1
  | "echo" => some echo
  | "printf" => some printf
  | "test" => some (Condition.program false)
  | "[" => some (Condition.program true)
  | "cat" => some Filter.cat
  | "cksum" => some Filter.checksum
  | "wc" => some Filter.count
  | "head" => some Filter.head
  | "tail" => some Filter.tail
  | "tr" => some (Filter.transliterate fun s => (Format.unescape {} (s.length + 1) s).1)
  | "sort" => some LineOrder.sort
  | "yes" => some Filter.yes
  | "ls" => some Filter.list
  | "seq" => some Sequence.run
  | "sleep" => some sleep
  | "pwd" => some pathName
  | "printenv" => some printenv
  | "touch" => some FileProgram.touch
  | "mkdir" => some FileProgram.makeDirectories
  | "rmdir" => some FileProgram.removeDirectories
  | "rm" => some FileProgram.remove
  | "cp" => some (FileProgram.transferAll false)
  | "mv" => some (FileProgram.transferAll true)
  | "ln" => some FileProgram.link
  | "chmod" => some FileProgram.changeModes
  | "dd" => some FileProgram.copyBlocks
  | "tee" => some FileProgram.tee
  | "cut" => some LineFilter.cut
  | "uniq" => some LineFilter.unique
  | "tac" => some LineFilter.reverse
  | "rev" => some LineFilter.mirror
  | "nl" => some LineFilter.number
  | "grep" => some LineSearch.grep
  | "basename" => some NameProgram.baseName
  | "dirname" => some NameProgram.directoryName
  | "which" => some NameProgram.which
  | "expr" => some NameProgram.expression
  | "id" => some NameProgram.identity
  | "whoami" => some fun _ => NameProgram.identity ["-un"]
  | "uname" => some NameProgram.system
  | "arch" => some fun _ => NameProgram.system ["-m"]
  | _ => none

/-- Names of the programs of a machine; the last ones start other programs. -/
def names : List String :=
  ["true", "false", "echo", "printf", "test", "[", "cat", "cksum", "wc", "head", "tail",
   "tr", "sort", "yes", "ls", "seq", "sleep", "pwd", "printenv", "touch", "mkdir", "rmdir", "rm",
   "cp", "mv", "ln", "chmod", "dd", "tee", "cut", "uniq", "tac", "rev", "nl", "grep", "basename",
   "dirname", "which", "expr", "id", "whoami", "uname", "arch", "env", "timeout", "nice", "nohup",
   "setsid", "xargs", "sh", "dash"]

end FixGrader.Shell.Utility
