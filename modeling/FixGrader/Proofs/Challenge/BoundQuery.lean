import FixGrader.Proofs.Challenge.Argument
import FixGrader.Proofs.Scoring.Pass
import Mathlib

namespace FixGrader.SqlInjection

open Pattern CharSet Idiom

/-- Of ASCII there are only letters, digits and underscores in a name. -/
def IsName (x : List Char) : Prop := ∀ c ∈ x, Unicode.isAscii c = true → Unicode.isAsciiWord c = true

def front : List Char := "cursor.execute(\"".toList

def back (x : List Char) : List Char := "\", (".toList ++ x ++ ",))".toList

/-- The call that executes the SQL text `q` with the one parameter `x`. -/
def boundQuery (q x : String) : String := "cursor.execute(\"" ++ q ++ "\", (" ++ x ++ ",))"

theorem toList_boundQuery (q x : String) :
    (boundQuery q x).toList = front ++ q.toList ++ back x.toList := by
  unfold boundQuery
  rw [String.toList_append, String.toList_append, String.toList_append, String.toList_append]
  unfold front back
  rw [List.append_assoc, List.append_assoc, List.append_assoc, List.append_assoc,
    List.append_assoc]

theorem back_eq (x : List Char) : back x = '"' :: ',' :: ' ' :: '(' :: (x ++ [',', ')', ')']) := rfl

section

variable {a b m x y q w z : List Char} {c : Char}

theorem notMem_back (name : IsName x) (ascii : Unicode.isAscii c = true)
    (noWord : Unicode.isAsciiWord c = false) (other : c ∉ ['"', ',', ' ', '(', ')']) :
    c ∉ back x := by
  have outside : c ∉ x := fun mem => by simp [name c mem ascii] at noWord
  simp only [List.mem_cons, List.not_mem_nil, or_false] at other
  simp [back_eq, outside]
  tauto

/-- What ends behind a character that the back of the call does not have, without a double quote
from there on, ends before that back. -/
theorem exists_append_back (text : front ++ q ++ back x = a ++ (w ++ c :: y) ++ b)
    (hinge : c ∉ back x) (plain : '"' ∉ y) : ∃ b', b = b' ++ back x := by
  have cut : (front ++ q) ++ back x = (a ++ w ++ [c]) ++ (y ++ b) := by simpa using text
  -- The hinge cannot lie in the back of the call, so that back is behind it.
  have inner : ∃ s, y ++ b = s ++ back x := by
    obtain ⟨s, longer, rest⟩ | ⟨s, _, rest⟩ := List.append_eq_append_iff.mp cut
    · obtain rfl | ⟨s, d, rfl⟩ := List.eq_nil_or_concat s
      · exact ⟨[], by simpa using rest.symm⟩
      · have same : d = c := by
          have := congrArg List.getLast? longer
          simpa using this.symm
        exact absurd (by simp [rest, same]) hinge
    · exact ⟨s, rest⟩
  -- What is matched behind the hinge does not reach the quote that the back begins with.
  obtain ⟨s, same⟩ := inner
  obtain ⟨t, _, rest⟩ | ⟨t, longer, rest⟩ := List.append_eq_append_iff.mp same
  · exact ⟨t, rest⟩
  · cases t with
    | nil => exact ⟨[], by simpa using rest.symm⟩
    | cons d t =>
      rw [back_eq, List.cons_append] at rest
      obtain ⟨rfl, _⟩ := List.cons.inj rest
      exact absurd (by simp [longer]) plain

/-- As far as both go, the characters of `t` are those of `cs` but for letter case. -/
def agrees (cs t : List Char) : Bool :=
  (cs.zip t).all fun (c, d) => (folded (single c)).mem d

theorem agrees_of_folded {cs t : List Char} (h : Folded cs w) (cut : w ++ y = t ++ z) :
    agrees cs t = true := by
  induction h generalizing t with
  | nil => rfl
  | @cons c d cs w mem _ ih =>
    cases t with
    | nil => rfl
    | cons d' t =>
      obtain ⟨rfl, rest⟩ := List.cons.inj cut
      simpa [agrees, mem] using ih rest

/-- What the risky patterns begin with does not begin in the front of the call. -/
theorem not_agrees_front : ∀ cs ∈ ["select", "insert", "update", "delete", "where", "f"],
    ∀ t ∈ front.tails, t ≠ [] → agrees cs.toList t = false := by decide +kernel

theorem exists_front_append {cs : String}
    (start : cs ∈ ["select", "insert", "update", "delete", "where", "f"])
    (text : front ++ z = a ++ (w ++ y)) (h : Folded cs.toList w) : ∃ a', a = front ++ a' := by
  obtain ⟨s, rfl, _⟩ | ⟨t, cut, rest⟩ := List.append_eq_append_iff.mp text
  · exact ⟨s, rfl⟩
  · by_cases nil : t = []
    · exact ⟨[], by simp [cut, nil]⟩
    · have inside : t ∈ front.tails := (List.mem_tails _ _).mpr ⟨a, cut.symm⟩
      have clash := agrees_of_folded h rest
      rw [not_agrees_front cs start t inside nil] at clash
      cases clash

def Confined (p : Pattern) : Prop := ∀ ⦃q x a m b : List Char⦄, IsName x →
  front ++ q ++ back x = a ++ m ++ b → Spans p a m b →
    ∃ a' b', a = front ++ a' ∧ b = b' ++ back x

theorem occursIn_boundQuery {p : Pattern} (confined : Confined p) (only : WordBound p)
    {q x : String} (name : IsName x.toList) :
    p.occursIn (boundQuery q x) = p.occursIn q := by
  have left : ∀ a, wordBefore (front ++ a) = wordBefore a := by
    intro a
    cases a using List.reverseRecOn with
    | nil => decide
    | append_singleton a c => simp [wordBefore]
  have right : ∀ b, wordAfter (b ++ back x.toList) = wordAfter b := by
    intro b
    cases b with
    | nil => simp [back_eq, wordAfter]; decide
    | cons c b => rfl
  rw [Bool.eq_iff_iff, occursIn_iff, occursIn_iff, toList_boundQuery]
  constructor
  · rintro ⟨a, m, b, text, h⟩
    obtain ⟨a, b, rfl, rfl⟩ := confined name text h
    have inner : q.toList = a ++ m ++ b := by
      have := text
      simp only [List.append_assoc, List.append_cancel_left_eq] at this
      simpa only [← List.append_assoc, List.append_cancel_right_eq] using this
    exact ⟨a, m, b, inner, h.congr (only.indifferent (left a) (right b))⟩
  · rintro ⟨a, m, b, text, h⟩
    exact ⟨front ++ a, m, b ++ back x.toList, by simp [text],
      h.congr (only.indifferent (left a).symm (right b).symm)⟩

end

section

variable {p p' : Pattern} {words : List String} {h : Char} {P Q : Char → Prop}

/-- A match of `p` begins with one of `words` in any letter case. -/
def Leads (words : List String) (p : Pattern) : Prop := ∀ ⦃a m b⦄, Spans p a m b →
  ∃ s ∈ words, ∃ w y, m = w ++ y ∧ Folded s.toList w

theorem Leads.append (leads : Leads words p) (p' : Pattern) : Leads words (p ++ p') := by
  intro a m b spans
  obtain ⟨x, y, rfl, first, _⟩ := spans_append.mp spans
  obtain ⟨s, hs, w, z, rfl, folded⟩ := leads first
  exact ⟨s, hs, w, z ++ y, by simp, folded⟩

theorem leads_keyword (words : List String) : Leads words (keyword words) := by
  intro a m b spans
  obtain ⟨⟨s, hs, folded⟩, _⟩ := spans_keyword.mp spans
  exact ⟨s, hs, m, [], by simp, folded⟩

theorem leads_letter : Leads ["f"] (wordBoundary ++ litFolded "f") := by
  intro a m b spans
  obtain ⟨_, f, rfl, edge, letter⟩ := spans_append.mp spans
  obtain ⟨rfl, _⟩ := spans_wordBoundary.mp edge
  exact ⟨"f", by simp, f, [], by simp, spans_litFolded.mp letter⟩

def Only (Q : Char → Prop) (p : Pattern) : Prop := ∀ ⦃a m b⦄, Spans p a m b → ∀ c ∈ m, Q c

/-- A match of `p` has a character with `P` in it and behind that only characters with `Q`. -/
def Hinges (P Q : Char → Prop) (p : Pattern) : Prop := ∀ ⦃a m b⦄, Spans p a m b →
  ∃ w c y, m = w ++ c :: y ∧ P c ∧ ∀ d ∈ y, Q d

theorem hinges_one {s : CharSet} (each : ∀ c, s.mem c = true → P c) : Hinges P Q (one s) := by
  intro a m b spans
  obtain ⟨c, rfl, mem⟩ := spans_one.mp spans
  exact ⟨[], c, [], rfl, each c mem, by simp⟩

theorem Hinges.append (hinges : Hinges P Q p) (only : Only Q p') : Hinges P Q (p ++ p') := by
  intro a m b spans
  obtain ⟨x, y, rfl, first, second⟩ := spans_append.mp spans
  obtain ⟨w, c, z, rfl, here, behind⟩ := hinges first
  refine ⟨w, c, z ++ y, by simp, here, fun d hd => ?_⟩
  obtain hd | hd := List.mem_append.mp hd
  · exact behind d hd
  · exact only second d hd

theorem Hinges.prepend (hinges : Hinges P Q p') (p : Pattern) : Hinges P Q (p ++ p') := by
  intro a m b spans
  obtain ⟨x, y, rfl, _, second⟩ := spans_append.mp spans
  obtain ⟨w, c, z, rfl, here, behind⟩ := hinges second
  exact ⟨x ++ w, c, z, by simp, here, behind⟩

theorem Hinges.alt (first : Hinges P Q p) (second : Hinges P Q p') : Hinges P Q (.alt p p') := by
  intro a m b spans
  obtain spans | spans := spans_alt.mp spans
  · exact first spans
  · exact second spans

theorem hinges_char (p : Pattern) (h : Char) : Hinges (· = h) Q (p ++ char h) := by
  refine Hinges.prepend (hinges_one fun c mem => ?_) p
  exact of_decide_eq_true (mem_single.symm.trans mem)

theorem unquoted_blanks : Only (· ≠ '"') blanks := by
  rintro a m b spans _ mem rfl
  have blank := spans_blanks.mp spans _ mem
  revert blank
  decide

theorem unquoted_operand : Only (· ≠ '"') (one (union word (single '('))) := by
  rintro a m b spans _ mem rfl
  obtain ⟨c, rfl, operand⟩ := spans_one.mp spans
  obtain rfl := List.mem_singleton.mp mem
  revert operand
  decide

theorem unquoted_format : Only (· ≠ '"') (litFolded "format") := by
  rintro a m b spans _ mem rfl
  obtain ⟨c, hc, same⟩ := (spans_litFolded.mp spans).exists_of_mem mem
  have differs : ("format".toList.all fun c => !(folded (single c)).mem '"') = true := by
    decide +kernel
  simpa [same] using List.all_eq_true.mp differs c hc

theorem unquoted_bracket : Only (· ≠ '"') (char '(') := by
  intro a m b spans
  rw [spans_char.mp spans]
  simp

/-- What a pattern matches in the call lies in the SQL text, if it begins with none of the words
there and goes past a character that the back of the call does not have. -/
theorem Leads.confined (leads : Leads words p) (hinges : Hinges (· = h) (· ≠ '"') p)
    (foreign : ∀ w ∈ words, w ∈ ["select", "insert", "update", "delete", "where", "f"])
    (ascii : Unicode.isAscii h = true) (noWord : Unicode.isAsciiWord h = false)
    (other : h ∉ ['"', ',', ' ', '(', ')']) : Confined p := by
  intro q x a m b name text spans
  obtain ⟨s, hs, w, y, cut, folded⟩ := leads spans
  obtain ⟨a', ha⟩ := exists_front_append (z := q ++ back x) (y := y ++ b) (foreign s hs)
    (by simpa [cut] using text) folded
  obtain ⟨w, _, y, rfl, rfl, plain⟩ := hinges spans
  obtain ⟨b', hb⟩ := exists_append_back text (notMem_back name ascii noWord other)
    fun mem => plain _ mem rfl
  exact ⟨a', b', ha, hb⟩

theorem confined_formatted : Confined formatted := by
  have hinges : Hinges (· = '{') (· ≠ '"') formatted :=
    ((hinges_char _ '{').alt (hinges_char _ '{')).prepend _
  exact (leads_letter.append _).confined hinges (by decide) rfl rfl (by decide)

theorem confined_concatenated : Confined concatenated :=
  Leads.confined (((((leads_keyword _).append _).append _).append _).append _) (hinges_char _ '+')
    (by decide) rfl rfl (by decide)

theorem confined_percentFormatted : Confined percentFormatted :=
  Leads.confined (((((((leads_keyword _).append _).append _).append _).append _).append _).append _)
    (((hinges_char _ '%').append unquoted_blanks).append unquoted_operand)
    (by decide) rfl rfl (by decide)

theorem confined_methodFormatted : Confined methodFormatted :=
  Leads.confined ((((((leads_keyword _).append _).append _).append _).append _).append _)
    (((hinges_char _ '.').append unquoted_format).append unquoted_bracket)
    (by decide) rfl rfl (by decide)

theorem risky_boundQuery {q x : String} (name : IsName x.toList) :
    rule.risky (boundQuery q x) = rule.risky q := by
  have each := fun (p : Pattern) (confined : Confined p) (only : WordBound p) =>
    occursIn_boundQuery confined only (q := q) name
  simp only [rule, occursAny, List.any_cons, List.any_nil,
    each _ confined_formatted (by decide), each _ confined_concatenated (by decide),
    each _ confined_percentFormatted (by decide), each _ confined_methodFormatted (by decide)]

def IsQuote (c : Char) : Prop := c = '"' ∨ c = '\''

def Quoted (p : Pattern) : Prop := Hinges IsQuote (fun _ => True) p

theorem Quoted.append (quoted : Quoted p) (p' : Pattern) : Quoted (p ++ p') :=
  Hinges.append quoted fun _ _ _ _ _ _ => trivial

theorem quoted_quote (p : Pattern) : Quoted (p ++ quote) :=
  Hinges.prepend (hinges_one fun c mem => by simpa [IsQuote, mem_oneOf] using mem) p

theorem quoted_formattedBody {c : Char} (quote : IsQuote c) : Quoted (formattedBody c) := by
  have opening : Quoted (char c) :=
    hinges_one fun d mem => of_decide_eq_true (mem_single.symm.trans mem) ▸ quote
  exact (((opening.append _).append _).append _).append _

theorem quoted_risky : ∀ p ∈ [formatted, concatenated, percentFormatted, methodFormatted],
    Quoted p := by
  simp only [List.forall_mem_cons, List.not_mem_nil, false_imp_iff, implies_true, and_true]
  refine ⟨?_, ?_, ?_, ?_⟩
  · have bodies := Hinges.alt (quoted_formattedBody (.inl rfl)) (quoted_formattedBody (.inr rfl))
    exact bodies.prepend _
  · exact ((quoted_quote _).append _).append _
  · exact ((((quoted_quote _).append _).append _).append _).append _
  · exact (((quoted_quote _).append _).append _).append _

theorem risky_of_unquoted {q : String} (double : '"' ∉ q.toList) (single : '\'' ∉ q.toList) :
    rule.risky q = false := by
  by_contra found
  obtain ⟨p, hp, occurs⟩ := occursAny_eq_true.mp (Bool.not_eq_false _ ▸ found)
  obtain ⟨a, m, b, text, spans⟩ := occursIn_iff.mp occurs
  obtain ⟨w, c, y, rfl, quote, _⟩ := quoted_risky p hp spans
  have inside : c ∈ q.toList := by simp [text]
  obtain rfl | rfl := quote
  · exact double inside
  · exact single inside

theorem safe_boundQuery {q : String} (x : String) (double : '"' ∉ q.toList)
    (line : '\n' ∉ q.toList) : rule.safe (boundQuery q x) = true := by
  have call : front = "cursor".toList ++ ".execute(".toList ++ ['"'] := by decide
  apply safe_of_boundCall
  refine boundCall_occursIn_iff.mpr ⟨".execute(", by simp [callNames], "cursor".toList,
    [] ++ (('"' :: (q.toList ++ ['"'])) ++ ([] ++ ',' :: ([' '] ++ '(' ::
      (x.toList ++ [',', ')', ')'])))), ?_, ?_⟩
  · rw [toList_boundQuery, call, back_eq]
    simp only [List.append_assoc, List.cons_append, List.nil_append]
  · refine .mk (by simp [Blank]) (.literal (.inl rfl) fun c hc => ?_) (by simp [Blank]) ?_ (by decide)
    · exact ⟨fun same => line (same ▸ hc), fun same => double (same ▸ hc)⟩
    · simp only [Blank, List.mem_singleton, forall_eq]
      decide

/-- A call that binds its parameter is given full credit if and only if the rule does not take an
apostrophe in the SQL text for the end of a literal that is put together with something. -/
theorem boundQuery_graded (policy : ScorePolicy) {q x : String} (double : '"' ∉ q.toList)
    (line : '\n' ∉ q.toList) (name : IsName x.toList) :
    ((rule.judge (boundQuery q x)).band = .full ↔ rule.risky q = false) ∧
    ('\'' ∉ q.toList → rule.risky q = false) ∧
    policy.evaluate "sqli_001" (boundQuery q x) =
      if rule.risky q then .graded .failed policy.mixed rule.wording.mixed
      else .graded .passed policy.full rule.wording.full := by
  have safe := safe_boundQuery x double line
  have risky := risky_boundQuery (q := q) name
  refine ⟨?_, fun single => risky_of_unquoted double single, ?_⟩
  · rw [Rule.judge_band_full_iff, safe, risky]
    simp
  · have graded := policy.evaluate_slug .sqlInjection (boundQuery q x)
    rw [Challenge.rule, Rule.judge, safe, risky] at graded
    refine graded.trans ?_
    cases rule.risky q <;> rfl

theorem boundQuery_graded_user :
    let q := "SELECT * FROM users WHERE id = %s"
    '"' ∉ q.toList ∧ '\n' ∉ q.toList ∧ '\'' ∉ q.toList ∧ IsName "user_id".toList ∧
    ({} : ScorePolicy).evaluate "sqli_001" (boundQuery q "user_id") =
      .graded .passed 100 rule.wording.full := by
  have name : IsName "user_id".toList := by
    simp [IsName]
    decide
  have single : '\'' ∉ "SELECT * FROM users WHERE id = %s".toList := by decide
  obtain ⟨_, tame, graded⟩ := boundQuery_graded {} (q := "SELECT * FROM users WHERE id = %s")
    (by decide) (by decide) name
  refine ⟨by decide, by decide, single, name, ?_⟩
  rw [graded, tame single]
  rfl

/-- The apostrophes of the SQL text look to the rule like the ends of a literal, and the percent sign
behind one of them like formatting. -/
theorem boundQuery_mixed_pattern :
    let q := "SELECT id FROM users WHERE name LIKE '%son' AND age > %s"
    '"' ∉ q.toList ∧ '\\' ∉ q.toList ∧ '\n' ∉ q.toList ∧ IsName "age".toList ∧
    (rule.judge (boundQuery q "age")).band = .mixed ∧
    (({} : ScorePolicy).evaluate "sqli_001" (boundQuery q "age")).status ≠ .passed := by
  intro q
  have double : '"' ∉ q.toList := by decide
  have line : '\n' ∉ q.toList := by decide
  have name : IsName "age".toList := by
    simp [IsName]
    decide
  have safe : rule.safe (boundQuery q "age") = true := safe_boundQuery "age" double line
  have risky : rule.risky (boundQuery q "age") = true := (risky_boundQuery name).trans (by cbv)
  refine ⟨double, by decide, line, name, ?_, ?_⟩
  · rw [Rule.judge, safe, risky]
    rfl
  · exact ScorePolicy.not_passed_of_risky {} (c := .sqlInjection) risky

end

end FixGrader.SqlInjection
