import FixGrader.Worker.Call
import FixGrader.Worker.Consumer
import Mathlib.Data.List.Induction

namespace FixGrader

/-- What a caller may ask of a worker. -/
inductive Request where
  | start
  | stop
  | enqueue (id : Uuid)
  | flush
  | submit (s : Submission)
  | rescore (id : Uuid) (code : Option String)
  | pull (source : List (Option Uuid))
  deriving DecidableEq, Repr

def Request.call : Request → Call
  | start => .start
  | stop => .stop
  | enqueue id => .enqueue id (.over .done)
  | flush => .flush
  | submit s => .submit s
  | rescore id code => .rescore id code
  | pull source => .pull source

/-- Tasks and consumers are named by the order in which they came up. -/
inductive Event where
  | request (r : Request)
  | call (k : Nat)
  | giveUp (k : Nat)
  | consumer (i : Nat)
  | wait (millis : Nat)
  /-- The program is asked to shut down. -/
  | shutdown
  deriving DecidableEq, Repr

def Request.events (r : Request) (k n : Nat) : List Event :=
  .request r :: List.replicate n (.call k)

/-- A request and what is left of its call. -/
structure Task where
  request : Request
  call : Call

/-- A worker among its callers. -/
structure System (σ τ : Type) where
  worker : Worker σ τ
  tasks : List Task := []

/-- A worker with its store in memory. The outcome of a pass depends on slug and code alone. -/
def WorkerEnv.ofOutcome (loadFault saveFault : Nat → Option CallFault)
    (outcome : String → String → PassOutcome) : WorkerEnv Unit CountedStore where
  store := .inMemory loadFault saveFault
  pass _ _ s := (outcome s.slug s.code, 5, ())
  date millis := ⟨⟨2024, 1, 1⟩, millis / 60000, millis / 1000 % 60, millis % 1000 * 1000000⟩
  patience := 10

section

variable {α : Type} {l : List α} {i j : Nat} {a b : α}

theorem getElem?_concat_cases (h : (l ++ [a])[i]? = some b) :
    l[i]? = some b ∨ i = l.length ∧ b = a := by
  rw [List.getElem?_append] at h
  split at h
  · exact .inl h
  · obtain ⟨hi, rfl⟩ := List.getElem?_eq_some_iff.mp h
    simp only [List.length_singleton] at hi
    exact .inr ⟨by omega, by simp⟩

theorem getElem?_set_cases (h : (l.set i a)[j]? = some b) :
    i = j ∧ b = a ∨ i ≠ j ∧ l[j]? = some b := by
  by_cases hij : i = j
  · subst hij
    obtain ⟨_, _, rfl⟩ := by simpa [List.getElem?_set_self'] using h
    exact .inl ⟨rfl, rfl⟩
  · exact .inr ⟨hij, by rwa [List.getElem?_set_ne hij] at h⟩

end

namespace System

variable {σ τ α : Type} {env : WorkerEnv σ τ}

/-- A worker that nobody has asked for anything yet. -/
def fresh (service : σ) (store : τ) (clock : Nat) : System σ τ :=
  { worker := { service, store, clock } }

def setCall (S : System σ τ) (k : Nat) (t : Task) (w : Worker σ τ) (c : Call) : System σ τ :=
  ⟨w, S.tasks.set k { t with call := c }⟩

theorem setCall_at {S : System σ τ} {k : Nat} {t : Task} (at_ : S.tasks[k]? = some t)
    (w : Worker σ τ) (c : Call) : (S.setCall k t w c).tasks[k]? = some { t with call := c } :=
  List.getElem?_set_self (List.getElem?_eq_some_iff.mp at_).1

/-- What an event makes of a system, if it can take place. -/
def step (env : WorkerEnv σ τ) (S : System σ τ) : Event → Option (System σ τ)
  | .request r => some { S with tasks := S.tasks ++ [⟨r, r.call⟩] }
  | .call k => do
    let t ← S.tasks[k]?
    let (w, c) ← S.worker.step env t.call
    return S.setCall k t w c
  | .giveUp k => do
    let t ← S.tasks[k]?
    if t.call.deadline?.any (· ≤ S.worker.clock) then S.setCall k t S.worker (.over .done) else none
  | .consumer i => (S.worker.advance env i).map fun w => { S with worker := w }
  | .wait millis => some { S with worker.clock := S.worker.clock + millis }
  | .shutdown => some { S with worker.shutdown := true }

def run (env : WorkerEnv σ τ) (S : System σ τ) : List Event → Option (System σ τ)
  | [] => some S
  | e :: events => (S.step env e).bind fun T => run env T events

/-- What `f` sees in the events of a run, in order. -/
def along (env : WorkerEnv σ τ) (f : System σ τ → Event → List α) (S : System σ τ) :
    List Event → List α
  | [] => []
  | e :: events => f S e ++ ((S.step env e).map fun T => along env f T events).getD []

theorem run_append (S : System σ τ) (before after : List Event) :
    S.run env (before ++ after) = (S.run env before).bind fun T => T.run env after := by
  induction before generalizing S with
  | nil => rfl
  | cons e before ih => simp [run, ih, Option.bind_assoc]

theorem run_append_eq_some {S T : System σ τ} {before after : List Event} :
    S.run env (before ++ after) = some T ↔
      ∃ R, S.run env before = some R ∧ R.run env after = some T := by
  rw [run_append, Option.bind_eq_some_iff]

theorem run_of_append {R S T : System σ τ} {before after : List Event}
    (h : S.run env (before ++ after) = some T) (upTo : S.run env before = some R) :
    R.run env after = some T := by
  obtain ⟨Q, hQ, hT⟩ := run_append_eq_some.mp h
  cases upTo.symm.trans hQ
  exact hT

theorem run_concat_eq_some {S T : System σ τ} {events : List Event} {e : Event} :
    S.run env (events ++ [e]) = some T ↔
      ∃ R, S.run env events = some R ∧ R.step env e = some T := by
  simp [run_append_eq_some, run]

theorem along_append {S T : System σ τ} (f : System σ τ → Event → List α) {before : List Event}
    (h : S.run env before = some T) (after : List Event) :
    S.along env f (before ++ after) = S.along env f before ++ T.along env f after := by
  induction before generalizing S with
  | nil => cases h; rfl
  | cons e before ih =>
    obtain ⟨R, hR, hT⟩ := Option.bind_eq_some_iff.mp h
    simp [along, hR, ih hT]

theorem along_isPrefix {S T : System σ τ} (f : System σ τ → Event → List α) {before : List Event}
    (h : S.run env before = some T) (after : List Event) :
    S.along env f before <+: S.along env f (before ++ after) := by
  rw [along_append f h]
  exact List.prefix_append ..

theorem along_concat {S T : System σ τ} (f : System σ τ → Event → List α) {events : List Event}
    (h : S.run env events = some T) (e : Event) :
    S.along env f (events ++ [e]) = S.along env f events ++ f T e := by
  rw [along_append f h]
  cases hs : T.step env e <;> simp [along, hs]

/-- What holds at the start of a run and is kept by each of its events holds at its end. -/
theorem run_induction {S : System σ τ} {motive : List Event → System σ τ → Prop}
    (start : motive [] S)
    (next : ∀ events R e T, S.run env events = some R → motive events R →
      R.step env e = some T → motive (events ++ [e]) T)
    {events : List Event} {T : System σ τ} (h : S.run env events = some T) :
    motive events T := by
  induction events using List.reverseRecOn generalizing T with
  | nil => cases h; exact start
  | append_singleton events e ih =>
    obtain ⟨R, hR, hT⟩ := run_concat_eq_some.mp h
    exact next events R e T hR (ih hR) hT

end System

end FixGrader
