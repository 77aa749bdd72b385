namespace FixGrader

inductive Status where
  | pending
  | running
  | passed
  | failed
  | error
  deriving DecidableEq, Repr, Inhabited

namespace Status

def all : List Status := [pending, running, passed, failed, error]

def name : Status → String
  | pending => "pending"
  | running => "running"
  | passed => "passed"
  | failed => "failed"
  | error => "error"

instance : ToString Status := ⟨name⟩

def ofName? (s : String) : Option Status := all.find? (·.name == s)

theorem ofName?_name (s : Status) : ofName? s.name = some s := by
  cases s <;> decide

/-- The text for a name that is no status. -/
def unknownMessage (s : String) : String := s!"invalid submission status '{s}'"

def isTerminal : Status → Bool
  | passed | failed | error => true
  | pending | running => false

/-- A running submission may go back to pending: its challenge may have no rule yet. -/
def canBecome : Status → Status → Bool
  | pending, next => next == pending || next == running
  | running, next => next != running
  | _, next => next == pending

theorem canBecome_running_iff {s : Status} : s.canBecome running = true ↔ s = pending := by
  cases s <;> decide

theorem running_canBecome_iff {s : Status} : running.canBecome s = true ↔ s ≠ running := by
  cases s <;> decide

theorem canBecome_pending (s : Status) : s.canBecome pending = true := by
  cases s <;> rfl

end Status

end FixGrader
