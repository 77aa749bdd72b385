import FixGrader.Proofs.Submission.Fields
import FixGrader.Submission.Document

namespace FixGrader

namespace Json

theorem lossless_orNull {α : Type} {f : α → Json} (each : ∀ a, Lossless (f a)) (a : Option α) :
    Lossless (orNull f a) := by
  cases a with
  | none => exact .null
  | some a => exact each a

theorem optional?_orNull {α : Type} {f : α → Json} {g : Json → Option α}
    (reads : ∀ a, g (f a) = some a) (some_ : ∀ a, f a ≠ null) (a : Option α) :
    optional? g (orNull f a) = some a := by
  cases a with
  | none => rfl
  | some a =>
    rw [orNull, optional?]
    · rw [reads]
      rfl
    · exact some_ a

theorem listOf?_array {α : Type} {f : α → Json} {g : Json → Option α}
    (reads : ∀ a, g (f a) = some a) (l : List α) : listOf? g (array (l.map f)) = some l := by
  induction l with
  | nil => rfl
  | cons a l ih =>
    have rest : (l.map f).mapM g = some l := ih
    simp [listOf?, array?, List.mapM_cons, reads, rest]

/-- All members of an object are the fields of a record that knows them. -/
theorem Shape.fields?_obj {shape : Shape} {members : List (String × Json)}
    (known : ∀ m ∈ members, m.1 ∈ shape.names) (nodup : (members.map (·.1)).Nodup) :
    shape.fields? (obj members) = some members := by
  have named : (members.map fun m => (some m.1, m.2)).mapM
      (fun m : Option String × Json => m.1.map (·, m.2)) = some members := by
    clear known nodup
    induction members with
    | nil => rfl
    | cons m members ih => simp [List.mapM_cons, ih]
  have all : members.filter (fun m => shape.names.contains m.1) = members := by
    rw [List.filter_eq_self]
    exact fun m hm => List.contains_iff_mem.mpr (known m hm)
  simp only [fields?, obj, ofObject?, bind, named, Option.bind_some, all, nodup, if_true]

end Json

theorem Status.ofJson?_toJson (s : Status) : ofJson? s.toJson = some s := ofName?_name s

theorem Issue.ofJson?_toJson (i : Issue) : ofJson? i.toJson = some i := by
  rfl

theorem Issue.lossless_toJson (i : Issue) : Json.Lossless i.toJson := by
  refine Json.lossless_obj fun m hm => ?_
  simp only [List.mem_cons, List.not_mem_nil, or_false] at hm
  rcases hm with rfl | rfl | rfl <;> exact Json.lossless_str _

namespace Submission

/-- The dates of the record are ones that a clock shows. -/
structure Dated (s : Submission) : Prop where
  createdAt : s.createdAt.Ordinary
  updatedAt : s.updatedAt.Ordinary

theorem lossless_toJson (s : Submission) : Json.Lossless s.toJson := by
  have score : Json.Lossless (.orNull (.nat ·.toNat) s.score) :=
    Json.lossless_orNull (fun n : UInt32 => .natural n.toNat) s.score
  have feedback : Json.Lossless (.orNull .str s.feedback) :=
    Json.lossless_orNull Json.lossless_str s.feedback
  have issues : Json.Lossless (.array (s.issues.map Issue.toJson)) := by
    refine .array fun j hj => ?_
    obtain ⟨i, _, rfl⟩ := List.mem_map.mp hj
    exact i.lossless_toJson
  refine Json.lossless_obj fun m hm => ?_
  simp only [List.cons_append, List.nil_append, List.mem_cons, List.mem_append, List.mem_map,
    List.not_mem_nil, or_false] at hm
  rcases hm with rfl | rfl | ⟨handle, _, rfl⟩ | rfl | rfl | rfl | rfl | rfl | rfl | rfl
  all_goals first | exact Json.lossless_str _ | assumption

theorem score?_nat (n : UInt32) : score? (.nat n.toNat) = some n := by
  have small : n.toNat < UInt32.size := n.toNat_lt
  simp [score?, Json.nat32?, Json.nat?, Json.nat, small]

theorem id?_str (u : Uuid) : id? (.str u.toString) = some u := by
  simp only [id?, Json.str, Json.str?, Option.bind_some, Uuid.parse?_toString]

theorem instant?_str {t : Instant} (h : t.Ordinary) : instant? (.str t.toString) = some t := by
  simp only [instant?, Json.str, Json.str?, Option.bind_some, Instant.parse?_toString h]

/-- The fields of a record as they are found in its document. -/
structure FieldsOf (s : Submission) (fs : Json.Fields) : Prop where
  id : fs.lookup "id" = some (.str s.id.toString)
  slug : fs.lookup "challenge_slug" = some (.str s.slug)
  handle : fs.lookup "user_handle" = s.handle.map .str
  code : fs.lookup "code" = some (.str s.code)
  status : fs.lookup "status" = some s.status.toJson
  score : fs.lookup "score" = some (.orNull (.nat ·.toNat) s.score)
  feedback : fs.lookup "feedback" = some (.orNull .str s.feedback)
  issues : fs.lookup "issues" = some (.array (s.issues.map Issue.toJson))
  createdAt : fs.lookup "created_at" = some (.str s.createdAt.toString)
  updatedAt : fs.lookup "updated_at" = some (.str s.updatedAt.toString)

theorem exists_fields (s : Submission) :
    ∃ fs, shape.fields? s.toJson = some fs ∧ FieldsOf s fs := by
  refine ⟨_, Json.Shape.fields?_obj (fun m hm => ?_) ?_, ?_⟩
  · simp only [List.cons_append, List.nil_append, List.mem_cons, List.mem_append, List.mem_map,
      List.not_mem_nil, or_false] at hm
    rcases hm with rfl | rfl | ⟨handle, _, rfl⟩ | rfl | rfl | rfl | rfl | rfl | rfl | rfl <;>
      simp [shape]
  · cases s.handle <;> simp
  · cases handle : s.handle <;>
      exact ⟨rfl, rfl, by rw [handle]; rfl, rfl, rfl, rfl, rfl, rfl, rfl, rfl⟩

theorem get?_of_lookup {α : Type} {fs : Json.Fields} {name : String} {f : Json → Option α}
    {j : Json} {a : α} (found : fs.lookup name = some j) (reads : f j = some a) :
    fs.get? name f = some a := by
  rw [Json.Fields.get?, found]
  exact reads

theorem find?_of_lookup {α : Type} {fs : Json.Fields} {name : String} {f : Json → Option α}
    {j : Json} {a : Option α} (found : fs.lookup name = some j)
    (reads : Json.optional? f j = some a) : fs.find? name f = some a := by
  rw [Json.Fields.find?, Json.Fields.getD?, found]
  exact reads

theorem ofJson?_toJson {s : Submission} (dated : s.Dated) : ofJson? s.toJson = some s := by
  obtain ⟨fs, read, of⟩ := s.exists_fields
  have id := get?_of_lookup of.id (id?_str s.id)
  have slug := get?_of_lookup (f := Json.str?) of.slug rfl
  have handle : fs.find? "user_handle" Json.str? = some s.handle := by
    rw [Json.Fields.find?, Json.Fields.getD?, of.handle]
    cases s.handle <;> rfl
  have code := get?_of_lookup (f := Json.str?) of.code rfl
  have status := get?_of_lookup of.status s.status.ofJson?_toJson
  have score := find?_of_lookup of.score
    (Json.optional?_orNull score?_nat (by simp [Json.nat]) s.score)
  have feedback := find?_of_lookup of.feedback
    (Json.optional?_orNull (g := Json.str?) (fun _ => rfl) (by simp [Json.str]) s.feedback)
  have issues : fs.getD? "issues" [] (Json.listOf? Issue.ofJson?) = some s.issues := by
    rw [Json.Fields.getD?, of.issues]
    exact Json.listOf?_array Issue.ofJson?_toJson s.issues
  have created := get?_of_lookup of.createdAt (instant?_str dated.createdAt)
  have updated := get?_of_lookup of.updatedAt (instant?_str dated.updatedAt)
  simp only [ofJson?, bind, read, id, slug, handle, code, status, score, feedback, issues, created,
    updated, Option.bind_some]

theorem decode?_encode {s : Submission} (dated : s.Dated) : decode? s.encode = some s := by
  rw [decode?, encode, Json.parse?_render s.lossless_toJson, Option.bind_some,
    ofJson?_toJson dated]

end Submission

end FixGrader
