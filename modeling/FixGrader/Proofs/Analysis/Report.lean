import FixGrader.Analysis.Report
import Mathlib.Data.List.Forall2

namespace FixGrader

theorem mapM_eq_some_iff {α β : Type} {f : α → Option β} {xs : List α} {ys : List β} :
    xs.mapM f = some ys ↔ List.Forall₂ (fun x y => f x = some y) xs ys := by
  induction xs generalizing ys with
  | nil => cases ys <;> simp
  | cons x xs ih =>
    cases ys with
    | nil => simp [List.mapM_cons, Option.bind_eq_some_iff]
    | cons y ys => simp [List.mapM_cons, Option.bind_eq_some_iff, ← ih]

theorem exists_of_forall₂ {α β : Type} {r : α → β → Prop} {xs : List α} {ys : List β}
    (each : List.Forall₂ r xs ys) {x : α} (mem : x ∈ xs) : ∃ y ∈ ys, r x y := by
  induction each with
  | nil => cases mem
  | @cons x' y' _ _ first _ ih =>
    obtain rfl | mem := List.mem_cons.mp mem
    · exact ⟨y', List.mem_cons_self, first⟩
    · obtain ⟨y, mem, related⟩ := ih mem
      exact ⟨y, List.mem_cons_of_mem y' mem, related⟩

theorem lookup_filter {α β : Type} [BEq α] [LawfulBEq α] {p : α → Bool} {a : α} (keep : p a = true)
    (l : List (α × β)) : (l.filter fun m => p m.1).lookup a = l.lookup a := by
  induction l with
  | nil => rfl
  | cons m l ih =>
    obtain ⟨k, v⟩ := m
    by_cases same : a = k
    · subst same
      simp [keep]
    · have other : (a == k) = false := beq_false_of_ne same
      by_cases kept : p k = true <;> simp [kept, List.lookup_cons, other, ih]

namespace Json

/-- `j` is a record of a shape, with these fields: an object in which no field of the shape repeats,
or an array of the first fields in order. -/
inductive Record (s : Shape) : Json → (String → Option Json) → Prop
  | object {members : List (String × Json)}
      (once : ((members.map Prod.fst).filter s.names.contains).Nodup) :
      Record s (obj members) fun name => members.lookup name
  | array {items : List Json} (least : s.least ≤ items.length)
      (most : items.length ≤ s.names.length) :
      Record s (array items) fun name => (s.names.zip items).lookup name

theorem ofObject?_obj (s : Shape) (members : List (String × Json)) :
    s.ofObject? (members.map fun m => (some m.1, m.2)) =
      if ((members.map Prod.fst).filter s.names.contains).Nodup then
        some (members.filter fun m => s.names.contains m.1)
      else none := by
  have named : (members.map fun m => (some m.1, m.2)).mapM
      (fun m : Option String × Json => m.1.map (·, m.2)) = some members := by
    rw [mapM_eq_some_iff, List.forall₂_map_left_iff, List.forall₂_same]
    exact fun _ _ => rfl
  simp only [Shape.ofObject?, bind, named, Option.bind_some, List.filter_map, Function.comp_def]

theorem exists_members {s : Shape} {ms : List (Option String × Json)} {fs : Fields}
    (read : s.ofObject? ms = some fs) :
    ∃ members : List (String × Json), ms = members.map fun m => (some m.1, m.2) := by
  obtain ⟨members, named, _⟩ := Option.bind_eq_some_iff.mp read
  refine ⟨members, ?_⟩
  rw [← List.forall₂_eq_eq_eq, List.forall₂_map_right_iff]
  refine (mapM_eq_some_iff.mp named).imp fun m n same => ?_
  obtain ⟨key, readable, rfl⟩ := Option.map_eq_some_iff.mp same
  exact Prod.ext readable rfl

namespace Record

variable {s : Shape} {j : Json}

theorem of_fields? {fs : Fields} (read : s.fields? j = some fs) :
    ∃ fields, Record s j fields ∧ ∀ name ∈ s.names, fields name = fs.lookup name := by
  cases j with
  | object ms =>
    obtain ⟨members, rfl⟩ := exists_members read
    rw [Shape.fields?, ofObject?_obj] at read
    split at read
    next once =>
      obtain rfl := Option.some.inj read
      refine ⟨_, .object once, fun name mem => ?_⟩
      exact (lookup_filter (List.contains_iff_mem.mpr mem) _).symm
    next => cases read
  | array items =>
    simp only [Shape.fields?, Shape.ofArray?] at read
    split at read
    next fits =>
      obtain rfl := Option.some.inj read
      simp only [Bool.and_eq_true, decide_eq_true_eq] at fits
      exact ⟨_, .array fits.1 fits.2, fun _ _ => rfl⟩
    next => cases read
  | null | bool | number | string => cases read

theorem exists_fields? {fields : String → Option Json} (record : Record s j fields) :
    ∃ fs, s.fields? j = some fs ∧ ∀ name ∈ s.names, fields name = fs.lookup name := by
  cases record with
  | object once =>
    refine ⟨_, (ofObject?_obj s _).trans (if_pos once), fun name mem => ?_⟩
    exact (lookup_filter (List.contains_iff_mem.mpr mem) _).symm
  | array least most =>
    refine ⟨_, ?_, fun _ _ => rfl⟩
    simp [Shape.fields?, Shape.ofArray?, least, most]

theorem unique {fields fields' : String → Option Json} (first : Record s j fields)
    (second : Record s j fields') {name : String} (mem : name ∈ s.names) :
    fields name = fields' name := by
  obtain ⟨fs, read, same⟩ := first.exists_fields?
  obtain ⟨fs', read', same'⟩ := second.exists_fields?
  obtain rfl := Option.some.inj (read.symm.trans read')
  rw [same _ mem, same' _ mem]

end Record

theorem getD?_eq_some_iff {α : Type} {fs : Fields} {name : String} {default a : α}
    {f : Json → Option α} : fs.getD? name default f = some a ↔
      fs.lookup name = none ∧ default = a ∨ ∃ j, fs.lookup name = some j ∧ f j = some a := by
  unfold Fields.getD?
  cases fs.lookup name <;> simp

/-- The text of a field that may be `null` or missing. -/
inductive OptionalText : Option Json → Option String → Prop
  | missing : OptionalText none none
  | null : OptionalText (some null) none
  | text (t : String) : OptionalText (some (str t)) (some t)

/-- The items of a field that may be missing. -/
inductive OptionalItems : Option Json → List Json → Prop
  | missing : OptionalItems none []
  | items (items : List Json) : OptionalItems (some (array items)) items

theorem OptionalItems.unique {j : Option Json} {items items' : List Json}
    (first : OptionalItems j items) (second : OptionalItems j items') : items = items' := by
  cases first <;> cases second <;> rfl

theorem find?_eq_some_iff {fs : Fields} {name : String} {t : Option String} :
    fs.find? name str? = some t ↔ OptionalText (fs.lookup name) t := by
  rw [Fields.find?, getD?_eq_some_iff]
  constructor
  · rintro (⟨missing, rfl⟩ | ⟨j, found, read⟩)
    · exact missing ▸ .missing
    · rw [found]
      cases j with
      | null => exact Option.some.inj read ▸ .null
      | string text =>
        cases text with
        | none => cases read
        | some text => exact Option.some.inj read ▸ .text text
      | bool | number | array | object => cases read
  · intro optional
    generalize fs.lookup name = j at optional
    cases optional with
    | missing => exact .inl ⟨rfl, rfl⟩
    | null => exact .inr ⟨_, rfl, rfl⟩
    | text t => exact .inr ⟨_, rfl, rfl⟩

theorem getD?_listOf?_eq_some_iff {α : Type} {fs : Fields} {name : String}
    {f : Json → Option α} {xs : List α} : fs.getD? name [] (listOf? f) = some xs ↔
      ∃ items, OptionalItems (fs.lookup name) items ∧
        List.Forall₂ (fun j x => f j = some x) items xs := by
  rw [getD?_eq_some_iff]
  constructor
  · rintro (⟨missing, rfl⟩ | ⟨j, found, read⟩)
    · exact ⟨[], missing ▸ .missing, .nil⟩
    · obtain ⟨items, array, each⟩ := Option.bind_eq_some_iff.mp read
      cases j with
      | array =>
        obtain rfl := Option.some.inj array
        exact ⟨_, found ▸ .items _, mapM_eq_some_iff.mp each⟩
      | null | bool | number | string | object => cases array
  · rintro ⟨items, optional, each⟩
    generalize fs.lookup name = j at optional
    cases optional with
    | missing => cases each; exact .inl ⟨rfl, rfl⟩
    | items => exact .inr ⟨_, rfl, mapM_eq_some_iff.mpr each⟩

end Json

open Json (Record OptionalText OptionalItems)

/-- The entries of a report as a tool prints it. Nothing but blanks is a report without results, and
such a report has no entries. -/
inductive Entries (stdout : String) : List Json → Prop
  | blank (blank : Text.isBlankText stdout = true) : Entries stdout []
  | written {j : Json} {fields : String → Option Json} {entries : List Json}
      (full : Text.isBlankText stdout = false) (written : Json.parse? stdout = some j)
      (report : Record ⟨["results"], 0⟩ j fields)
      (results : OptionalItems (fields "results") entries) : Entries stdout entries

theorem Entries.unique {stdout : String} {entries entries' : List Json}
    (first : Entries stdout entries) (second : Entries stdout entries') : entries = entries' := by
  cases first with
  | blank blank =>
    cases second with
    | blank => rfl
    | written full => cases blank.symm.trans full
  | written full written report results =>
    cases second with
    | blank blank => cases blank.symm.trans full
    | written _ written' report' results' =>
      obtain rfl := Option.some.inj (written.symm.trans written')
      rw [report.unique report' List.mem_cons_self] at results
      exact results.unique results'

namespace Report

/-- Which message and severity an entry gives. -/
inductive SemgrepEntry : Json → Option String → Option String → Prop
  | bare {j : Json} {fields : String → Option Json} (entry : Record ⟨["extra"], 0⟩ j fields)
      (missing : fields "extra" = none) : SemgrepEntry j none none
  | extra {j extra : Json} {fields inner : String → Option Json}
      {message severity : Option String} (entry : Record ⟨["extra"], 0⟩ j fields)
      (found : fields "extra" = some extra) (more : Record ⟨["message", "severity"], 2⟩ extra inner)
      (text : OptionalText (inner "message") message)
      (grade : OptionalText (inner "severity") severity) : SemgrepEntry j message severity

inductive BanditEntry : Json → Option String → Option String → Prop
  | intro {j : Json} {fields : String → Option Json} {message severity : Option String}
      (entry : Record ⟨["issue_text", "issue_severity"], 2⟩ j fields)
      (text : OptionalText (fields "issue_text") message)
      (grade : OptionalText (fields "issue_severity") severity) : BanditEntry j message severity

theorem results?_eq_some_iff {entry : Json → Option Issue} {stdout : String}
    {found : List Issue} : results? entry stdout = some found ↔
      ∃ entries, Entries stdout entries ∧
        List.Forall₂ (fun j i => entry j = some i) entries found := by
  have mem : "results" ∈ ["results"] := List.mem_cons_self
  simp only [results?, parse?]
  cases blank : Text.isBlankText stdout with
  | true =>
    constructor
    · intro read
      obtain rfl : [] = found := Option.some.inj read
      exact ⟨[], .blank blank, .nil⟩
    · rintro ⟨entries, report, each⟩
      obtain rfl := report.unique (.blank blank)
      cases each
      rfl
  | false =>
    simp only [Bool.false_eq_true, reduceIte, bind, Option.bind_eq_some_iff,
      Json.getD?_listOf?_eq_some_iff]
    constructor
    · rintro ⟨j, written, fs, read, entries, results, each⟩
      obtain ⟨fields, record, same⟩ := Record.of_fields? read
      rw [← same _ mem] at results
      exact ⟨entries, .written blank written record results, each⟩
    · rintro ⟨entries, report, each⟩
      cases report with
      | blank full => cases full.symm.trans blank
      | written _ written record results =>
        obtain ⟨fs, read, same⟩ := record.exists_fields?
        rw [same _ mem] at results
        exact ⟨_, written, fs, read, entries, results, each⟩

theorem semgrepFinding?_eq_some_iff {j : Json} {i : Issue} : semgrepFinding? j = some i ↔
    ∃ message severity, SemgrepEntry j message severity ∧
      i = semgrepFinding?.issue message severity := by
  have extra : "extra" ∈ ["extra"] := List.mem_cons_self
  have message : "message" ∈ ["message", "severity"] := List.mem_cons_self
  have severity : "severity" ∈ ["message", "severity"] := by simp
  simp only [semgrepFinding?, bind, Option.bind_eq_some_iff, Json.getD?_eq_some_iff,
    Json.find?_eq_some_iff, pure, Option.some.injEq]
  constructor
  · rintro ⟨fs, read, got⟩
    obtain ⟨fields, entry, same⟩ := Record.of_fields? read
    rcases got with ⟨missing, rfl⟩ | ⟨j, found, fs', more, m, text, v, grade, rfl⟩
    · exact ⟨none, none, .bare entry ((same _ extra).trans missing), rfl⟩
    · obtain ⟨inner, record, agree⟩ := Record.of_fields? more
      rw [← agree _ message] at text
      rw [← agree _ severity] at grade
      exact ⟨m, v, .extra entry ((same _ extra).trans found) record text grade, rfl⟩
  · rintro ⟨m, v, content, rfl⟩
    cases content with
    | bare entry missing =>
      obtain ⟨fs, read, same⟩ := entry.exists_fields?
      exact ⟨fs, read, .inl ⟨(same _ extra).symm.trans missing, rfl⟩⟩
    | extra entry found record text grade =>
      obtain ⟨fs, read, same⟩ := entry.exists_fields?
      obtain ⟨fs', more, agree⟩ := record.exists_fields?
      rw [agree _ message] at text
      rw [agree _ severity] at grade
      exact ⟨fs, read, .inr ⟨_, (same _ extra).symm.trans found, fs', more, m, text, v, grade, rfl⟩⟩

theorem banditFinding?_eq_some_iff {j : Json} {i : Issue} : banditFinding? j = some i ↔
    ∃ message severity, BanditEntry j message severity ∧
      i = ⟨"bandit", message.getD "Bandit security issue detected.", severity.getD "MEDIUM"⟩ := by
  have message : "issue_text" ∈ ["issue_text", "issue_severity"] := List.mem_cons_self
  have severity : "issue_severity" ∈ ["issue_text", "issue_severity"] := by simp
  simp only [banditFinding?, bind, Option.bind_eq_some_iff, Json.find?_eq_some_iff, pure,
    Option.some.injEq]
  constructor
  · rintro ⟨fs, read, m, text, v, grade, rfl⟩
    obtain ⟨fields, entry, same⟩ := Record.of_fields? read
    rw [← same _ message] at text
    rw [← same _ severity] at grade
    exact ⟨m, v, .intro entry text grade, rfl⟩
  · rintro ⟨m, v, ⟨entry, text, grade⟩, rfl⟩
    obtain ⟨fs, read, same⟩ := entry.exists_fields?
    rw [same _ message] at text
    rw [same _ severity] at grade
    exact ⟨fs, read, m, text, v, grade, rfl⟩

end Report

end FixGrader
