import FixGrader.Challenge.Idiom
import FixGrader.Challenge.Verdict

namespace FixGrader.CrossSiteScripting

open Pattern CharSet Idiom

def escapeCall : Pattern :=
  wordBoundary ++ optional (anyOf [lit "html.", lit "markupsafe.", lit "flask."]) ++
    lit "escape" ++ char '('

def safeFilter : Pattern := char '|' ++ blanks ++ lit "safe" ++ wordBoundary

/-- A formatted literal, quoted by `q`, with a plain variable after the start of a tag. -/
def formattedBody (q : Char) : Pattern :=
  char q ++ upTo (String.singleton q) ++ tagStart ++ upTo (String.singleton q) ++ char '{' ++
    blanks ++ name ++ blanks ++ char '}'

def formatted : Pattern :=
  wordBoundary ++ char 'f' ++ alt (formattedBody '"') (formattedBody '\'')

def appended : Pattern :=
  quote ++ upTo "\"'" ++ tagStart ++ upTo "\"'" ++ quote ++ blanks ++ char '+' ++ blanks ++ name ++
    blanks ++ alt (char '+') (assert .lineEnd)

def prepended : Pattern :=
  name ++ blanks ++ char '+' ++ blanks ++ quote ++ upTo "\"'" ++ lit "</" ++ one letter

def rule : Rule where
  safe := occursAny [escapeCall, call "bleach.clean", call "conditional_escape",
    call "format_html", call "render_template"]
  risky := occursAny [call "Markup", call "mark_safe", safeFilter, call "render_template_string",
    formatted, appended, prepended]
  wording := {
    full := "Output is escaped before rendering."
    mixed := "An escaping call is present, " ++
      "but unescaped user input still reaches the HTML output."
    risky := "User input is written into HTML without escaping."
    missing := "No escaping or sanitization detected before output. " ++
      "Escape user input before rendering it." }

end FixGrader.CrossSiteScripting
