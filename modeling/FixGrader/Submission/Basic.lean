import FixGrader.Instant
import FixGrader.Submission.Status
import FixGrader.Uuid

namespace FixGrader

/-- One finding, with the severity as its tool words it. -/
structure Issue where
  tool : String
  message : String
  severity : String
  deriving DecidableEq, Repr, Inhabited

/-- What one scoring pass found. -/
structure Assessment where
  status : Status := .pending
  score : Option UInt32 := none
  feedback : Option String := none
  issues : List Issue := []
  deriving DecidableEq, Repr, Inhabited

def Assessment.graded (status : Status) (score : UInt32) (feedback : String) : Assessment :=
  { status, score := some score, feedback := some feedback }

structure Submission where
  id : Uuid
  slug : String
  handle : Option String
  code : String
  status : Status
  score : Option UInt32
  feedback : Option String
  issues : List Issue
  createdAt : Instant
  updatedAt : Instant
  deriving DecidableEq, Repr, Inhabited

/-- Why a submission is not accepted. -/
inductive Rejection where
  | emptyCode
  | handleTooLong
  deriving DecidableEq, Repr

namespace Submission

def maxHandleLength : Nat := 64

def fresh (id : Uuid) (now : Instant) (slug code : String) (handle : Option String) :
    Submission :=
  { id, slug, handle, code, status := .pending, score := none, feedback := none, issues := [],
    createdAt := now, updatedAt := now }

def create (id : Uuid) (now : Instant) (slug code : String) (handle : Option String) :
    Except Rejection Submission :=
  if code.isEmpty then .error .emptyCode
  else if handle.any (·.length > maxHandleLength) then .error .handleTooLong
  else .ok (fresh id now slug code handle)

def markRunning (now : Instant) (s : Submission) : Submission :=
  { s with status := .running, updatedAt := now }

def apply (now : Instant) (a : Assessment) (s : Submission) : Submission :=
  { s with
    status := a.status
    score := a.score
    feedback := a.feedback
    issues := a.issues
    updatedAt := now }

/-- Records that the pass itself broke. -/
def markError (now : Instant) (fault : String) (s : Submission) : Submission :=
  { s with
    status := .error
    score := none
    feedback := some ("Scoring failure: " ++ fault)
    issues := [⟨"scoring", fault, "error"⟩]
    updatedAt := now }

/-- Back to pending, with other code if `code` is given. -/
def reset (now : Instant) (code : Option String) (s : Submission) : Submission :=
  { s with
    code := code.getD s.code
    status := .pending
    score := none
    feedback := none
    issues := []
    updatedAt := now }

end Submission

def Rejection.message : Rejection → String
  | emptyCode => "code must not be empty"
  | handleTooLong => s!"user handle exceeds {Submission.maxHandleLength} characters"

end FixGrader
