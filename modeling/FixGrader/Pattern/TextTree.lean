import FixGrader.Pattern.Size

namespace FixGrader.Pattern

/-- The layers before the last one, in which a text ends, and the last one. -/
inductive TextTree where
  | node (earlier : List (List (Nat × TextTree))) (last : List (Nat × TextTree))
  deriving Inhabited

def Size.layer {α : Type} (l : List α) : Size :=
  match l with
  | [] => {}
  | [_] => { states := 1 }
  | _ => { states := 1, extra := 8 * l.length }

def Size.layers {α : Type} (ls : List (List α)) : Size :=
  ls.foldl (fun s l => s.plus (.layer l)) {}

namespace TextTree

def leaf : TextTree := node [] []

def single : List Nat → TextTree
  | [] => node [[]] []
  | b :: bytes => node [] [(b, single bytes)]

def mark : TextTree → TextTree
  | node earlier last =>
    if earlier.all List.isEmpty && last.isEmpty && !earlier.isEmpty then node earlier last
    else node (earlier ++ [last]) []

mutual

def add : TextTree → List Nat → TextTree
  | t, [] => t.mark
  | node earlier last, b :: bytes => node earlier (addTo last b bytes)

def addTo : List (Nat × TextTree) → Nat → List Nat → List (Nat × TextTree)
  | [], b, bytes => [(b, single bytes)]
  | (c, t) :: rest, b, bytes =>
    if c == b then (c, add t bytes) :: rest else (c, t) :: addTo rest b bytes

end

def ofTexts (texts : List (List Nat)) : TextTree := texts.foldl add leaf

def isLeaf : TextTree → Bool
  | node earlier last => earlier.all List.isEmpty && last.isEmpty

mutual

/-- The states of a tree: a fork to its layers and to the end between them, and those below. -/
def size : TextTree → Size
  | node earlier last =>
    let layers := earlier ++ [last]
    let links := layers.countP (!·.isEmpty) + earlier.length
    (sizeOfLayers earlier).plus ((sizeOfLayer last).plus
      ((Size.layers layers).plus { states := 1, extra := 4 * links }))

def sizeOfLayers : List (List (Nat × TextTree)) → Size
  | [] => {}
  | l :: ls => (sizeOfLayer l).plus (sizeOfLayers ls)

def sizeOfLayer : List (Nat × TextTree) → Size
  | [] => {}
  | (_, t) :: rest => (if t.isLeaf then {} else size t).plus (sizeOfLayer rest)

end

end TextTree

namespace Part

/-- Reads one of `texts`, which are sequences of bytes. The end of all comes first. -/
def ofTexts (texts : List (List Nat)) : Part :=
  (states 1).also { build := fun s => (s.plus (TextTree.ofTexts texts).size).checked }

end Part

end FixGrader.Pattern
