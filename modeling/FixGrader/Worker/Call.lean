import FixGrader.Worker.Basic

namespace FixGrader

inductive WorkerError where
  | notFound (id : Uuid)
  | notMovable (id : Uuid) (now goal : Status)
  | store (e : StoreError)
  deriving DecidableEq, Repr

def WorkerError.message : WorkerError → String
  | notFound id => s!"Submission {id.toString} not found"
  | notMovable id now goal =>
    s!"Submission {id.toString} cannot move from {now.name} to {goal.name}"
  | store e => e.message

/-- What a call returns. -/
inductive CallResult where
  | done
  | accepted (id : Uuid)
  | refused (e : WorkerError)
  | broke
  deriving DecidableEq, Repr

/-- A call by what it does next. Between two steps of a call anything else may happen. -/
inductive Call where
  | start
  | stop
  /-- Looks whether the consumer that it has taken is over. -/
  | stopping (consumer : Nat)
  | sendStop (consumer : Nat)
  | awaitExit (consumer : Nat) (deadline : Nat)
  /-- Counts an id as pending, then sends it. -/
  | enqueue (id : Uuid) (next : Call)
  | send (id : Uuid) (next : Call)
  | flush
  | submit (s : Submission)
  | rescore (id : Uuid) (code : Option String)
  | examine (id : Uuid) (s : Submission) (code : Option String)
  | restore (id : Uuid) (s : Submission)
  /-- Looks whether shutdown is requested. The source will give what is listed, pop by pop, and
  then nothing more: a pop without an answer does not end. -/
  | pull (source : List (Option Uuid))
  | beginPop (source : List (Option Uuid))
  | awaitPop (source : List (Option Uuid))
  | over (result : CallResult)
  deriving Repr, Inhabited

namespace Call

def fault (f : CallFault) : Call :=
  match f with
  | .fails e => .over (.refused (.store e))
  | .breaks => .over .broke

def deadline? : Call → Option Nat
  | awaitExit _ deadline => some deadline
  | _ => none

/-- How many steps a call has at most, apart from waiting. -/
def length : Call → Nat
  | pull source | beginPop source | awaitPop source => 6 * source.length + 6
  | enqueue _ next | send _ next => next.length + 2
  | _ => 6

end Call

namespace Worker

variable {σ τ : Type}

def start (w : Worker σ τ) : Worker σ τ :=
  if w.isRunning then w
  else { w with current := some w.consumers.length, consumers := w.consumers ++ [.waiting] }

def saveFor (env : WorkerEnv σ τ) (w : Worker σ τ) (s : Submission) (next : Call) :
    Worker σ τ × Call :=
  match w.save env s with
  | (.ok (), w) => (w, next)
  | (.error f, w) => (w, .fault f)

/-- One step of a call, if it can do one now. -/
def step (env : WorkerEnv σ τ) (w : Worker σ τ) : Call → Option (Worker σ τ × Call)
  | .start => some (w.start, .over .done)
  | .stop =>
    match w.current with
    | none => some (w, .over .done)
    | some i => some ({ w with current := none }, .stopping i)
  | .stopping i => some (w, if w.isOver i then .over .done else .sendStop i)
  | .sendStop i =>
    some ({ w with queue := w.queue ++ [.stop] }, .awaitExit i (w.clock + env.patience))
  | .awaitExit i _ => if w.isOver i then some (w, .over .done) else none
  | .enqueue id next => some ({ w with pending := w.pending + 1 }, .send id next)
  | .send id next => some ({ w with queue := w.queue ++ [.score id] }, next)
  | .flush => if w.pending = 0 then some (w, .over .done) else none
  | .submit s => some (w.saveFor env s (.enqueue s.id (.over (.accepted s.id))))
  | .rescore id code =>
    match w.load env id with
    | (.ok (some s), w) => some (w, .examine id s code)
    | (.ok none, w) => some (w, .over (.refused (.notFound id)))
    | (.error f, w) => some (w, .fault f)
  | .examine id s code =>
    if s.status = .running ∧ w.inFlight = some id then
      some (w, .over (.refused (.notMovable id .running .pending)))
    else some (w, .restore id (s.reset (env.date w.clock) code))
  | .restore id s => some (w.saveFor env s (.enqueue id (.over .done)))
  | .pull source => some (w, if w.shutdown then .over .done else .beginPop source)
  | .beginPop source => some (w, .awaitPop source)
  | .awaitPop [] => none
  | .awaitPop (none :: source) => some (w, .pull source)
  | .awaitPop (some id :: source) => some (w, .enqueue id (.pull source))
  | .over _ => none

end Worker

end FixGrader
