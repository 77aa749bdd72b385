import FixGrader.Worker.Basic

namespace FixGrader

namespace Worker

variable {σ τ : Type}

/-- The record after a pass. An outcome that the record cannot take becomes an error. -/
def concluded (date : Instant) (s : Submission) : PassOutcome → Submission
  | .assessed a =>
    if s.status.canBecome a.status then s.apply date a
    else s.markError date s!"invalid status transition to {a.status.name}"
  | .broke text => s.markError date (text.getD "scoring task panicked")

/-- The end of the work on one id, whatever came of it. -/
def release (w : Worker σ τ) (i : Nat) : Worker σ τ :=
  { w with inFlight := none }.enter i .acknowledging

def receive (w : Worker σ τ) (i : Nat) : Option (Worker σ τ) :=
  match w.queue with
  | [] => none
  | .stop :: rest => some ({ w with queue := rest }.enter i .finished)
  | .score id :: rest =>
    some ({ w with queue := rest, inFlight := some id }.enter i (.loading id))

/-- Only a record that may become running is scored. -/
def loadRecord (env : WorkerEnv σ τ) (w : Worker σ τ) (i : Nat) (id : Uuid) : Worker σ τ :=
  match w.load env id with
  | (.error .breaks, w) => w.enter i .dead
  | (.ok (some s), w) =>
    if s.status.canBecome .running then w.enter i (.marking (s.markRunning (env.date w.clock)))
    else w.release i
  | (_, w) => w.release i

def beginPass (env : WorkerEnv σ τ) (w : Worker σ τ) (i : Nat) (s : Submission) : Worker σ τ :=
  let (outcome, millis, service) := env.pass w.service w.clock s
  { w with service }.enter i (.scoring s outcome (w.clock + millis))

/-- Saves `s` and goes on with `next`, or with `failed` if the save failed. -/
def saveThen (env : WorkerEnv σ τ) (w : Worker σ τ) (i : Nat) (s : Submission)
    (next : Worker σ τ → Worker σ τ) (failed : StoreError → Worker σ τ → Worker σ τ) : Worker σ τ :=
  match w.save env s with
  | (.ok (), w) => next w
  | (.error (.fails e), w) => failed e w
  | (.error .breaks, w) => w.enter i .dead

def couldNotStore (env : WorkerEnv σ τ) (w : Worker σ τ) (s : Submission) (e : StoreError) :
    Submission :=
  s.markError (env.date w.clock) s!"failed to store result: {e.message}"

/-- One step of consumer `i`, if it can do one now: at most one call on the store. -/
def advance (env : WorkerEnv σ τ) (w : Worker σ τ) (i : Nat) : Option (Worker σ τ) :=
  match w.consumers[i]? with
  | none | some .finished | some .dead => none
  | some .waiting =>
    if w.consumers.any Stage.hasQueue then none else some (w.enter i .receiving)
  | some .receiving => w.receive i
  | some (.loading id) => some (w.loadRecord env i id)
  | some (.marking s) =>
    some (w.saveThen env i s (fun w => w.beginPass env i s) fun _ w => w.release i)
  | some (.scoring s outcome due) =>
    if due ≤ w.clock then some (w.enter i (.storing (concluded (env.date w.clock) s outcome)))
    else none
  | some (.storing s) =>
    some (w.saveThen env i s (release · i) fun _ w => w.enter i (.retrying s))
  | some (.retrying s) =>
    some (w.saveThen env i s (release · i) fun e w =>
      w.enter i (.givingUp (w.couldNotStore env s e)))
  | some (.givingUp s) => some (w.saveThen env i s (release · i) fun _ w => w.release i)
  | some .acknowledging => some ({ w with pending := w.pending - 1 }.enter i .receiving)

end Worker

end FixGrader
