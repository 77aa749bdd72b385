import FixGrader.Pattern.Search

namespace FixGrader.Idiom

open Pattern CharSet

def blanks : Pattern := run blank

def upTo (stops : String) : Pattern := run (compl (union (single '\n') (oneOf stops)))

def quote : Pattern := one (oneOf "\"'")

def literal (q : Char) : Pattern :=
  char q ++ upTo (String.singleton q) ++ char q

/-- A plain or dotted name. Only its first character has to be ASCII. -/
def name : Pattern := one (union letter (single '_')) ++ run (union word (single '.'))

/-- A call of `f`, up to its opening bracket, `f` starting a word. -/
def call (f : String) : Pattern := wordBoundary ++ lit f ++ char '('

def tagStart : Pattern := char '<' ++ one letter

def keyword (words : List String) : Pattern :=
  wordBoundary ++ anyOf (words.map litFolded) ++ wordBoundary

def occursAny (ps : List Pattern) (code : String) : Bool := ps.any (·.occursIn code)

end FixGrader.Idiom
