import FixGrader.Json.Record
import FixGrader.Submission.Basic

namespace FixGrader

namespace Status

def toJson (s : Status) : Json := .str s.name

/-- A status is its name, alone or as the only member of an object whose value is `null`. -/
def ofJson? : Json → Option Status
  | .string (some s) => ofName? s
  | .object [(some s, .null)] => ofName? s
  | _ => none

end Status

namespace Issue

def shape : Json.Shape := ⟨["tool", "message", "severity"], 3⟩

def toJson (i : Issue) : Json :=
  .obj [("tool", .str i.tool), ("message", .str i.message), ("severity", .str i.severity)]

def ofJson? (j : Json) : Option Issue := do
  let fs ← shape.fields? j
  some {
    tool := ← fs.get? "tool" Json.str?
    message := ← fs.get? "message" Json.str?
    severity := ← fs.get? "severity" Json.str? }

end Issue

namespace Submission

def shape : Json.Shape :=
  ⟨["id", "challenge_slug", "user_handle", "code", "status", "score", "feedback", "issues",
    "created_at", "updated_at"], 10⟩

def score? (j : Json) : Option UInt32 := j.nat32?.map UInt32.ofNat

def id? (j : Json) : Option Uuid := j.str?.bind Uuid.parse?

def instant? (j : Json) : Option Instant := j.str?.bind Instant.parse?

/-- The handle is left out when there is none; other absent values are written as `null`. -/
def toJson (s : Submission) : Json :=
  .obj (
    [("id", .str s.id.toString), ("challenge_slug", .str s.slug)] ++
    s.handle.toList.map (("user_handle", .str ·)) ++
    [("code", .str s.code),
     ("status", s.status.toJson),
     ("score", .orNull (.nat ·.toNat) s.score),
     ("feedback", .orNull .str s.feedback),
     ("issues", .array (s.issues.map Issue.toJson)),
     ("created_at", .str s.createdAt.toString),
     ("updated_at", .str s.updatedAt.toString)])

def ofJson? (j : Json) : Option Submission := do
  let fs ← shape.fields? j
  some {
    id := ← fs.get? "id" id?
    slug := ← fs.get? "challenge_slug" Json.str?
    handle := ← fs.find? "user_handle" Json.str?
    code := ← fs.get? "code" Json.str?
    status := ← fs.get? "status" Status.ofJson?
    score := ← fs.find? "score" score?
    feedback := ← fs.find? "feedback" Json.str?
    issues := ← fs.getD? "issues" [] (Json.listOf? Issue.ofJson?)
    createdAt := ← fs.get? "created_at" instant?
    updatedAt := ← fs.get? "updated_at" instant? }

def encode (s : Submission) : String := s.toJson.render

def decode? (text : String) : Option Submission := (Json.parse? text).bind ofJson?

end Submission

end FixGrader
