import FixGrader.Proofs.Tool.Staging

namespace FixGrader

inductive Piece where
  | text (s : String)
  | dir
  | container
  deriving DecidableEq, Repr

abbrev Pieces := List Piece

namespace Pieces

def fillOne (dir container : String) : Piece → String
  | .text s => s
  | .dir => dir
  | .container => container

def fill (dir container : String) (w : Pieces) : String :=
  String.join (w.map (fillOne dir container))

/-- Texts without places for names. -/
def texts (words : List String) : List Pieces := words.map fun s => [.text s]

/-- The path of the copy that a directory holds. -/
def file : Pieces := [.dir, .text "/", .text Staged.fileName]

variable (dir container : String)

theorem fill_text (s : String) : fill dir container [.text s] = s := by
  simp [fill, fillOne, String.join]

theorem fill_dir : fill dir container [.dir] = dir := by simp [fill, fillOne, String.join]

theorem fill_container : fill dir container [.container] = container := by
  simp [fill, fillOne, String.join]

theorem fill_file (s : Staged) : fill s.dir container file = s.file := by
  simp [fill, fillOne, String.join, file, Staged.file]

theorem map_fill_texts (words : List String) : (texts words).map (fill dir container) = words := by
  rw [texts, List.map_map]
  exact List.map_id'' (fill_text dir container) words

end Pieces

/-- A launch with places for names. -/
structure Template where
  program : String
  args : List Pieces
  env : List (String × String) := []
  workDir : Option Pieces := none
  limits : Limits
  deriving DecidableEq, Repr

def Template.fill (dir container : String) (T : Template) : Job where
  command := {
    program := T.program
    args := T.args.map (Pieces.fill dir container)
    env := T.env
    workDir := T.workDir.map (Pieces.fill dir container) }
  limits := T.limits

end FixGrader
