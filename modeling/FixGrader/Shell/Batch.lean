import FixGrader.Text.Blank

namespace FixGrader.Shell

structure Batch where
  most : Option Nat := none
  slot : Option String := none
  skipsEmpty : Bool := false
  isRaw : Bool := false
  command : List String := ["echo"]

namespace Batch

def ofArgs : List String → Batch
  | "-n" :: n :: rest => { ofArgs rest with most := n.toNat? }
  | "-I" :: slot :: rest => { ofArgs rest with slot := some slot }
  | "-r" :: rest => { ofArgs rest with skipsEmpty := true }
  | "-0" :: rest => { ofArgs rest with isRaw := true }
  | "-t" :: rest => ofArgs rest
  | [] => {}
  | arg :: rest =>
    match arg.toList with
    | '-' :: 'n' :: digits => { ofArgs rest with most := (String.ofList digits).toNat? }
    | '-' :: 'I' :: slot => { ofArgs rest with slot := some (String.ofList slot) }
    | _ => { command := arg :: rest }

/-- The words of a text, and whether a quote is open at its end; quotes and backslashes keep blanks
in a word. -/
def words (quote : Option Char) (current : Option (List Char)) :
    List Char → List (List Char) × Bool
  | [] => (current.toList.map List.reverse, quote.isSome)
  | c :: rest =>
    let add (c : Char) : Option (List Char) := some (c :: current.getD [])
    match quote with
    | some q =>
      if q == c then words none (some (current.getD [])) rest
      else if q == '\\' then words none (add c) rest
      else words quote (add c) rest
    | none =>
      if c == '"' || c == '\'' || c == '\\' then words (some c) current rest
      else if c == ' ' || c == '\t' || c == '\n' then
        let (more, isOpen) := words none none rest
        (current.toList.map List.reverse ++ more, isOpen)
      else words none (add c) rest

def pieces {α : Type} (size : Nat) : (fuel : Nat) → List α → List (List α)
  | 0, _ => []
  | fuel + 1, xs =>
    if xs.isEmpty then [] else xs.take size :: pieces size fuel (xs.drop size)

def fill (slot line word : String) : String := word.replace slot line

def commands (b : Batch) (text : List Char) : List (List String) × Bool :=
  let (found, isOpen) : List (List Char) × Bool :=
    if b.isRaw then ((Text.splitAt '\x00' text).filter (!·.isEmpty), false)
    else if b.slot.isSome then
      (((Text.splitAt '\n' text).map fun l => l.dropWhile (· == ' ')).filter (!·.isEmpty), false)
    else words none none text
  let found := found.map String.ofList
  match b.slot, b.most with
  | some slot, _ => (found.map fun line => b.command.map (fill slot line), isOpen)
  | none, most =>
    let size := max 1 (most.getD found.length)
    let batches := pieces size (found.length + 1) found
    let batches := if batches.isEmpty && !b.skipsEmpty then [[]] else batches
    (batches.map (b.command ++ ·), isOpen)

end Batch

end FixGrader.Shell
