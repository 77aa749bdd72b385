import FixGrader.Proofs.Challenge.Idiom
import FixGrader.Proofs.Scoring.Pass
import Mathlib

namespace FixGrader.Idiom

open Pattern

variable {a b m : List Char} {f q : Char}

theorem isWord_quote (quote : q = '"' ∨ q = '\'') : Unicode.isWord q = false := by
  obtain rfl | rfl := quote
  · decide
  · decide

theorem spans_formatted {letter : Pattern} {body : Char → Pattern} (start : wordBefore a = false)
    (word : Unicode.isWord f = true) (first : Spans letter a [f] (m ++ b))
    (quote : q = '"' ∨ q = '\'') (rest : Spans (body q) (a ++ [f]) m b) :
    Spans (wordBoundary ++ letter ++ alt (body '"') (body '\'')) a (f :: m) b := by
  have edge : Spans wordBoundary a [] ([f] ++ (m ++ b)) :=
    spans_wordBoundary.mpr ⟨rfl, by simp [start, wordAfter, word]⟩
  have either : Spans (alt (body '"') (body '\'')) (a ++ [f]) m b := by
    obtain rfl | rfl := quote
    · exact spans_alt.mpr (.inl rest)
    · exact spans_alt.mpr (.inr rest)
  have opening : Spans (wordBoundary ++ letter) a [f] (m ++ b) :=
    edge.append (by simpa using first)
  exact opening.append either

theorem spans_upTo_quote (line : '\n' ∉ m) (inside : q ∉ m) :
    Spans (upTo (String.singleton q)) a m b := by
  refine spans_upTo.mpr fun c hc => ⟨fun same => line (same ▸ hc), fun mem => inside ?_⟩
  rw [String.toList_singleton, List.mem_singleton] at mem
  exact mem ▸ hc

end FixGrader.Idiom

namespace FixGrader.SqlInjection

open Pattern CharSet Idiom

variable {a b t u w : List Char} {f q : Char}

theorem isAlpha_statements : ∀ s ∈ statements,
    s.toList ≠ [] ∧ s.toList.all Char.isAlpha = true := by decide

theorem spans_formattedBody (quote : q = '"' ∨ q = '\'') (line : '\n' ∉ t ++ u)
    (inside : q ∉ t ++ u) (statement : ∃ s ∈ statements, w.map Char.toLower = s.toList)
    (left : wordBefore t = false) (right : wordAfter u = false) :
    Spans (formattedBody q) a ([q] ++ t ++ w ++ u ++ ['{']) b := by
  rw [List.mem_append, not_or] at line inside
  obtain ⟨s, hs, same⟩ := statement
  have before : wordBefore (a ++ ([q] ++ t)) = false :=
    (wordBefore_append_cons (isWord_quote quote) t).trans left
  have behind : wordAfter (u ++ (['{'] ++ b)) = false :=
    (wordAfter_append_cons (by decide) u).trans right
  refine .append (.append (.append (.append ?_ ?_) ?_) ?_) ?_
  · exact spans_char.mpr rfl
  · exact spans_upTo_quote line.1 inside.1
  · exact spans_keyword_of_toLower hs same (isAlpha_statements s hs) before behind
  · exact spans_upTo_quote line.2 inside.2
  · exact spans_char.mpr rfl

/-- A literal with the letter `f`, a statement as a whole word in any letter case and a replacement
field behind it is seen wherever it stands in a snippet. -/
theorem formatted_statement_risky {code : String}
    (text : code.toList = a ++ f :: q :: (t ++ w ++ u ++ '{' :: b))
    (letter : f = 'f' ∨ f = 'F') (quote : q = '"' ∨ q = '\'') (start : wordBefore a = false)
    (line : '\n' ∉ t ++ u) (inside : q ∉ t ++ u)
    (statement : ∃ s ∈ statements, w.map Char.toLower = s.toList)
    (left : wordBefore t = false) (right : wordAfter u = false) :
    rule.risky code = true ∧ (rule.judge code).band ≠ .full ∧
      ∀ policy : ScorePolicy, (policy.evaluate "sqli_001" code).status ≠ .passed := by
  obtain ⟨alpha, same⟩ : f.isAlpha = true ∧ f.toLower = 'f' := by
    obtain rfl | rfl := letter
    · decide
    · decide
  have folds : Spans (litFolded "f") a [f] ([q] ++ t ++ w ++ u ++ ['{'] ++ b) := by
    have name : "f".toList = [f.toLower] := same ▸ by decide
    rw [spans_litFolded, name]
    exact .cons (folded_toLower alpha) .nil
  have found : formatted.occursIn code = true := by
    refine occursIn_iff.mpr ⟨a, f :: ([q] ++ t ++ w ++ u ++ ['{']), b, by simp [text], ?_⟩
    exact spans_formatted start (isWord_of_isAlpha alpha) folds quote
      (spans_formattedBody quote line inside statement left right)
  have risky : rule.risky code = true := by
    simp only [rule, occursAny, List.any_cons, found, Bool.true_or]
  exact ⟨risky, Rule.band_ne_full risky,
    fun policy => policy.not_passed_of_risky (c := .sqlInjection) risky⟩

theorem formatted_statement_risky_quoted :
    let code := "db.execute(F\"Select id From users Where name = '{name}'\", (a,))"
    rule.risky code = true ∧ (rule.judge code).band ≠ .full ∧
      ∀ policy : ScorePolicy, (policy.evaluate "sqli_001" code).status ≠ .passed :=
  formatted_statement_risky (a := "db.execute(".toList) (f := 'F') (q := '"') (t := [])
    (w := "Select".toList) (u := " id From users Where name = '".toList)
    (b := "name\x7d'\", (a,))".toList) (by decide) (.inr rfl) (.inl rfl) (by decide) (by decide)
    (by decide) ⟨"select", by decide, by decide⟩ (by decide) (by decide)

/-- A quote behind a backslash does not end the literal, but the rule sees no further. -/
theorem formatted_statement_unseen :
    let code := "db.execute(query, (a,))\n" ++
      "query = f'SELECT id FROM users WHERE name = \\'{name}\\''"
    rule.risky code = false ∧
      (({} : ScorePolicy).evaluate "sqli_001" code).status = .passed := by
  constructor
  · cbv
  · cbv

end FixGrader.SqlInjection

namespace FixGrader.CrossSiteScripting

open Pattern CharSet Idiom

variable {a b t u x y n : List Char} {q l c : Char}

theorem spans_formattedBody (line : '\n' ∉ t ++ u) (inside : q ∉ t ++ u)
    (tag : l.isAlpha = true) (blank : ∀ d ∈ x ++ y, Text.isBlank d = true)
    (start : Idiom.isNameStart c = true) (parts : ∀ d ∈ n, Idiom.isNamePart d = true) :
    Spans (formattedBody q) a
      ([q] ++ t ++ ['<', l] ++ u ++ ['{'] ++ x ++ c :: n ++ y ++ ['}']) b := by
  rw [List.mem_append, not_or] at line inside
  rw [List.forall_mem_append] at blank
  refine .append (.append (.append (.append (.append (.append (.append (.append ?_ ?_) ?_) ?_) ?_) ?_)
    ?_) ?_) ?_
  · exact spans_char.mpr rfl
  · exact spans_upTo_quote line.1 inside.1
  · exact spans_tagStart.mpr ⟨l, rfl, tag⟩
  · exact spans_upTo_quote line.2 inside.2
  · exact spans_char.mpr rfl
  · exact spans_blanks.mpr blank.1
  · exact spans_name.mpr ⟨c, n, rfl, start, parts⟩
  · exact spans_blanks.mpr blank.2
  · exact spans_char.mpr rfl

/-- A literal with the letter `f`, the start of a tag and behind it a field of nothing but a plain
name is seen wherever it stands in a snippet. -/
theorem formatted_tag_risky {code : String}
    (text : code.toList =
      a ++ 'f' :: q :: (t ++ '<' :: l :: (u ++ '{' :: (x ++ c :: (n ++ y ++ '}' :: b)))))
    (quote : q = '"' ∨ q = '\'') (before : wordBefore a = false) (line : '\n' ∉ t ++ u)
    (inside : q ∉ t ++ u) (tag : l.isAlpha = true) (blank : ∀ d ∈ x ++ y, Text.isBlank d = true)
    (start : Idiom.isNameStart c = true) (parts : ∀ d ∈ n, Idiom.isNamePart d = true) :
    rule.risky code = true ∧ (rule.judge code).band ≠ .full ∧
      ∀ policy : ScorePolicy, (policy.evaluate "xss_001" code).status ≠ .passed := by
  have found : formatted.occursIn code = true := by
    refine occursIn_iff.mpr ⟨a, 'f' ::
      ([q] ++ t ++ ['<', l] ++ u ++ ['{'] ++ x ++ c :: n ++ y ++ ['}']), b, by simp [text], ?_⟩
    exact spans_formatted before (by decide) (spans_char.mpr rfl) quote
      (spans_formattedBody line inside tag blank start parts)
  have risky : rule.risky code = true := by
    simp only [rule, occursAny, List.any_cons, found, Bool.or_true, Bool.true_or]
  exact ⟨risky, Rule.band_ne_full risky,
    fun policy => policy.not_passed_of_risky (c := .crossSiteScripting) risky⟩

theorem formatted_tag_risky_escaped :
    let code := "title = escape(title)\nreturn f\"<h1>{title}</h1><p>\x7b user.bio \x7d</p>\""
    rule.risky code = true ∧ (rule.judge code).band ≠ .full ∧
      ∀ policy : ScorePolicy, (policy.evaluate "xss_001" code).status ≠ .passed :=
  formatted_tag_risky (a := "title = escape(title)\nreturn ".toList) (q := '"') (t := [])
    (l := 'h') (u := "1>{title}</h1><p>".toList) (x := [' ']) (c := 'u') (n := "ser.bio".toList)
    (y := [' ']) (b := "</p>\"".toList) (by decide) (.inl rfl) (by decide) (by decide)
    (by decide) (by decide) (List.all_eq_true.mp (by decide)) (by decide)
    (List.all_eq_true.mp (by decide +kernel))

/-- An attribute in quotes behind backslashes is not seen. -/
theorem formatted_tag_unseen :
    let code := "title = escape(title)\nreturn f\"<a href=\\\"{url}\\\">{title}</a>\""
    rule.risky code = false ∧ (rule.judge code).band = .full := by
  constructor
  · cbv
  · cbv

end FixGrader.CrossSiteScripting
