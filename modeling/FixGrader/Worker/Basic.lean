import FixGrader.Store.Access

namespace FixGrader

/-- How a scoring pass ends. A pass that breaks may leave a text behind. -/
inductive PassOutcome where
  | assessed (a : Assessment)
  | broke (text : Option String)
  deriving DecidableEq, Repr, Inhabited

inductive Message where
  | score (id : Uuid)
  | stop
  deriving DecidableEq, Repr

/-- What a consumer does next. A stage with a record holds the consumer's own copy of it. -/
inductive Stage where
  /-- Waits until no consumer has the queue. -/
  | waiting
  | receiving
  | loading (id : Uuid)
  | marking (s : Submission)
  | scoring (s : Submission) (outcome : PassOutcome) (due : Nat)
  /-- Saves the outcome, for the first and for the second time. -/
  | storing (s : Submission)
  | retrying (s : Submission)
  | givingUp (s : Submission)
  | acknowledging
  | finished
  | dead
  deriving DecidableEq, Repr, Inhabited

namespace Stage

def isOver : Stage → Bool
  | finished | dead => true
  | _ => false

/-- From the moment it is let to the queue until it is over, a consumer has the queue to itself. -/
def hasQueue : Stage → Bool
  | waiting | finished | dead => false
  | _ => true

def due? : Stage → Option Nat
  | scoring _ _ due => some due
  | _ => none

end Stage

/-- The worker's surroundings: `σ` is the state of the scoring service, `τ` that of the store. -/
structure WorkerEnv (σ τ : Type) where
  store : StoreAccess τ
  pass : σ → Nat → Submission → PassOutcome × Nat × σ
  date : Nat → Instant
  patience : Nat

/-- Consumers take ids from one queue and score the records behind them. Times are in
milliseconds. -/
structure Worker (σ τ : Type) where
  service : σ
  store : τ
  queue : List Message := []
  /-- Ids that were enqueued and not yet acknowledged. -/
  pending : Nat := 0
  inFlight : Option Uuid := none
  /-- The consumer that was started last, until it is stopped. -/
  current : Option Nat := none
  consumers : List Stage := []
  clock : Nat := 0
  /-- Whether the program has been asked to shut down. -/
  shutdown : Bool := false

namespace Worker

variable {σ τ : Type}

def isOver (w : Worker σ τ) (i : Nat) : Bool := (w.consumers[i]?).all Stage.isOver

def isRunning (w : Worker σ τ) : Bool := w.current.any (!w.isOver ·)

def enter (w : Worker σ τ) (i : Nat) (stage : Stage) : Worker σ τ :=
  { w with consumers := w.consumers.set i stage }

def load (env : WorkerEnv σ τ) (w : Worker σ τ) (id : Uuid) :
    Except CallFault (Option Submission) × Worker σ τ :=
  let (loaded, store) := env.store.load id w.store
  (loaded, { w with store })

def save (env : WorkerEnv σ τ) (w : Worker σ τ) (s : Submission) :
    Except CallFault Unit × Worker σ τ :=
  let (saved, store) := env.store.save s w.store
  (saved, { w with store })

end Worker

end FixGrader
