import FixGrader.Worker.Call
import FixGrader.Worker.Consumer

namespace FixGrader

namespace Worker

variable {σ τ : Type}

def advanceAny (env : WorkerEnv σ τ) (w : Worker σ τ) : Option (Worker σ τ) :=
  (List.range w.consumers.length).findSome? (w.advance env)

/-- Steps of consumers, at most `fuel`, until none is left that needs no time. -/
def settle (env : WorkerEnv σ τ) (fuel : Nat) (w : Worker σ τ) : Worker σ τ :=
  match fuel with
  | 0 => w
  | fuel + 1 =>
    match w.advanceAny env with
    | none => w
    | some w => settle env fuel w

/-- More steps than consumers can do before they wait: a message takes at most eight. -/
def effort (w : Worker σ τ) : Nat := 8 * (w.queue.length + 2) + 2 * w.consumers.length

def rest (env : WorkerEnv σ τ) (w : Worker σ τ) : Worker σ τ := w.settle env w.effort

def nextDue? (w : Worker σ τ) : Option Nat := (w.consumers.filterMap Stage.due?).min?

/-- Lets time pass up to `time`, where consumers do not act any more. -/
def runUntil (env : WorkerEnv σ τ) (time fuel : Nat) (w : Worker σ τ) : Worker σ τ :=
  let w := w.rest env
  match fuel, w.nextDue? with
  | fuel + 1, some due =>
    if due < time then runUntil env time fuel { w with clock := due }
    else { w with clock := max w.clock time }
  | _, _ => { w with clock := max w.clock time }

def backlog (w : Worker σ τ) : Nat := w.queue.length + w.consumers.length + 1

def pause (env : WorkerEnv σ τ) (millis : Nat) (w : Worker σ τ) : Worker σ τ :=
  w.runUntil env (w.clock + millis) w.backlog

/-- Runs a call to its end. Time passes only up to the next moment for which something waits, and at
that moment the call comes before consumers. It is given up, without result, at the time `limit`, or
when nothing could end its waiting. -/
def call (env : WorkerEnv σ τ) (limit : Option Nat) (fuel : Nat) (w : Worker σ τ) (c : Call) :
    Option CallResult × Worker σ τ :=
  match fuel with
  | 0 => (none, w)
  | fuel + 1 =>
    match c with
    | .over r => (some r, w)
    | c =>
      match w.step env c with
      | some (w, c) => call env limit fuel w c
      | none =>
        let isLate (deadline : Option Nat) := deadline.any (· ≤ w.clock)
        if isLate c.deadline? then (some .done, w)
        else if isLate limit then (none, w)
        else
          let settled := w.rest env
          match settled.step env c with
          | some (w, c) => call env limit fuel w c
          | none =>
            match (settled.nextDue?.toList ++ c.deadline?.toList ++ limit.toList).min? with
            | some time => call env limit fuel { settled with clock := time } c
            | none => (none, settled)

def perform (env : WorkerEnv σ τ) (limit : Option Nat) (w : Worker σ τ) (c : Call) :
    Option CallResult × Worker σ τ :=
  w.call env limit (c.length + 2 * w.backlog + 4) c

end Worker

end FixGrader
