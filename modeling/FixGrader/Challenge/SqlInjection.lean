import FixGrader.Challenge.Idiom
import FixGrader.Challenge.Verdict

namespace FixGrader.SqlInjection

open Pattern CharSet Idiom

def boundCall : Pattern :=
  lit ".execute" ++ optional (lit "many") ++ char '(' ++ blanks ++
    anyOf [literal '"', literal '\'', name] ++ blanks ++ char ',' ++ blanks ++ one (compl blank)

/-- A text clause whose literal names a parameter after a colon. -/
def boundText : Pattern :=
  call "text" ++ blanks ++ quote ++ upTo "\"'" ++ char ':' ++
    one (union letter (single '_')) ++ run word

def statements : List String := ["select", "insert", "update", "delete"]

/-- A formatted literal, quoted by `q`, that holds a statement and a replacement field. -/
def formattedBody (q : Char) : Pattern :=
  char q ++ upTo (String.singleton q) ++ keyword statements ++ upTo (String.singleton q) ++
    char '{'

def formatted : Pattern :=
  wordBoundary ++ litFolded "f" ++ alt (formattedBody '"') (formattedBody '\'')

def concatenated : Pattern :=
  keyword (statements ++ ["where"]) ++ upTo "" ++ quote ++ blanks ++ char '+'

def percentFormatted : Pattern :=
  keyword statements ++ upTo "" ++ quote ++ blanks ++ char '%' ++ blanks ++
    one (union word (single '('))

def methodFormatted : Pattern :=
  keyword statements ++ upTo "" ++ quote ++ char '.' ++ litFolded "format" ++ char '('

def rule : Rule where
  safe := occursAny [boundCall, boundText]
  risky := occursAny [formatted, concatenated, percentFormatted, methodFormatted]
  wording := {
    full := "Parameterized query detected; user input is bound as query parameters."
    mixed := "Parameterized queries are used, but SQL is still built with unsafe string " ++
      "concatenation or formatting elsewhere."
    risky := "SQL is built with unsafe string concatenation or formatting of user input. " ++
      "Use parameter binding instead."
    missing := "No parameterized query detected. " ++
      "Pass user input to execute() as bound parameters." }

end FixGrader.SqlInjection
