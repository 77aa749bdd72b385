import FixGrader.Proofs.Worker.Rescore

namespace FixGrader

/-- The same surroundings, where the service also keeps the ids that it has scored. -/
def WorkerEnv.logged {σ τ : Type} (env : WorkerEnv σ τ) : WorkerEnv (σ × List Uuid) τ where
  store := env.store
  pass v time s :=
    let (outcome, millis, service) := env.pass v.1 time s
    (outcome, millis, service, v.2 ++ [s.id])
  date := env.date
  patience := env.patience

namespace Worker

variable {σ τ : Type} {env : WorkerEnv σ τ}

/-- The id that the next step of consumer `i` has scored, if it is one to a pass. -/
def scored (w : Worker σ τ) (i : Nat) : List Uuid :=
  match w.consumers[i]? with
  | some (.marking s) => [s.id]
  | _ => []

def withLog (w : Worker σ τ) (log : List Uuid) : Worker (σ × List Uuid) τ where
  service := (w.service, log)
  store := w.store
  queue := w.queue
  pending := w.pending
  inFlight := w.inFlight
  current := w.current
  consumers := w.consumers
  clock := w.clock
  shutdown := w.shutdown

variable (w : Worker σ τ) (log : List Uuid)

theorem load_withLog (id : Uuid) : (w.withLog log).load env.logged id =
    ((w.load env id).1, (w.load env id).2.withLog log) := rfl

theorem save_withLog (s : Submission) : (w.withLog log).save env.logged s =
    ((w.save env s).1, (w.save env s).2.withLog log) := rfl

theorem receive_withLog (i : Nat) :
    (w.withLog log).receive i = (w.receive i).map (·.withLog log) := by
  have same : (w.withLog log).queue = w.queue := rfl
  unfold receive
  rw [same]
  rcases w.queue with _ | ⟨_ | _, _⟩ <;> rfl

theorem loadRecord_withLog (i : Nat) (id : Uuid) :
    (w.withLog log).loadRecord env.logged i id = (w.loadRecord env i id).withLog log := by
  unfold loadRecord
  rw [load_withLog]
  rcases w.load env id with ⟨(_ | _) | (_ | s), w⟩
  · rfl
  · rfl
  · rfl
  · dsimp only
    split <;> rfl

theorem saveThen_withLog (ok : env.store.Faultless) {next : Worker σ τ → Worker σ τ}
    {next' : Worker (σ × List Uuid) τ → Worker (σ × List Uuid) τ} {log' : List Uuid}
    (same : ∀ w : Worker σ τ, next' (w.withLog log) = (next w).withLog log') (i : Nat)
    (s : Submission) (failed failed') :
    (w.withLog log).saveThen env.logged i s next' failed' =
      (w.saveThen env i s next failed).withLog log' := by
  unfold saveThen
  rw [save_withLog]
  rcases saved : w.save env s with ⟨f | ⟨⟩, w'⟩
  · exact absurd (congrArg Prod.fst saved) (ok.save _ _ _)
  · exact same w'

theorem advance_withLog (ok : env.store.Faultless) (i : Nat) :
    (w.withLog log).advance env.logged i =
      (w.advance env i).map (·.withLog (log ++ w.scored i)) := by
  have same : (w.withLog log).consumers = w.consumers := rfl
  unfold advance scored
  rw [same]
  cases w.consumers[i]? with
  | none => rfl
  | some stage =>
    cases stage with
    | finished | dead => rfl
    | waiting =>
      rw [List.append_nil]
      dsimp only
      split <;> rfl
    | receiving =>
      rw [List.append_nil]
      exact receive_withLog w log i
    | loading id =>
      rw [List.append_nil]
      exact congrArg some (loadRecord_withLog w log i id)
    | marking s => exact congrArg some (saveThen_withLog w log ok (fun _ => rfl) i s _ _)
    | scoring s outcome due =>
      rw [List.append_nil]
      by_cases late : due ≤ w.clock
      · have late' : due ≤ (w.withLog log).clock := late
        simp only [late, late', if_true]
        rfl
      · have early : ¬due ≤ (w.withLog log).clock := late
        simp only [late, early, if_false]
        rfl
    | storing s | retrying s | givingUp s =>
      rw [List.append_nil]
      exact congrArg some (saveThen_withLog w log ok (fun _ => rfl) i s _ _)
    | acknowledging =>
      rw [List.append_nil]
      rfl

theorem saveFor_withLog (s : Submission) (next : Call) :
    (w.withLog log).saveFor env.logged s next =
      ((w.saveFor env s next).1.withLog log, (w.saveFor env s next).2) := by
  unfold saveFor
  rw [save_withLog]
  rcases w.save env s with ⟨_ | ⟨⟩, w'⟩ <;> rfl

theorem start_withLog : (w.withLog log).start = w.start.withLog log := by
  have same : (w.withLog log).isRunning = w.isRunning := rfl
  unfold start
  rw [same]
  split <;> rfl

theorem step_withLog (c : Call) : (w.withLog log).step env.logged c =
    (w.step env c).map fun p => (p.1.withLog log, p.2) := by
  cases c with
  | start => exact congrArg some (congrArg (·, _) (start_withLog w log))
  | stop =>
    have same : (w.withLog log).current = w.current := rfl
    unfold step
    rw [same]
    cases w.current <;> rfl
  | awaitExit i _ =>
    have same : (w.withLog log).isOver i = w.isOver i := rfl
    simp only [step, same]
    split <;> rfl
  | flush =>
    have same : (w.withLog log).pending = w.pending := rfl
    simp only [step, same]
    split <;> rfl
  | submit s | restore _ s => exact congrArg some (saveFor_withLog w log s _)
  | rescore id _ =>
    simp only [step, load_withLog]
    rcases w.load env id with ⟨_ | _ | _, w'⟩ <;> rfl
  | examine _ s _ =>
    have same : (w.withLog log).inFlight = w.inFlight := rfl
    simp only [step, same]
    split <;> rfl
  | awaitPop source => rcases source with _ | ⟨_ | _, _⟩ <;> rfl
  | _ => rfl

end Worker

namespace System

variable {σ τ α : Type} {env : WorkerEnv σ τ}

def scored (S : System σ τ) : Event → List Uuid
  | .consumer i => S.worker.scored i
  | _ => []

def withLog (S : System σ τ) (log : List Uuid) : System (σ × List Uuid) τ :=
  ⟨S.worker.withLog log, S.tasks⟩

theorem step_withLog (ok : env.store.Faultless) (S : System σ τ) (log : List Uuid) (e : Event) :
    (S.withLog log).step env.logged e =
      (S.step env e).map (·.withLog (log ++ S.scored e)) := by
  cases e with
  | request | wait | shutdown => simp only [step, scored, List.append_nil]; rfl
  | call k =>
    have same : (S.withLog log).tasks = S.tasks := rfl
    simp only [step, scored, List.append_nil, same]
    cases S.tasks[k]? with
    | none => rfl
    | some t =>
      have moved : (S.worker.withLog log).step env.logged t.call =
          (S.worker.step env t.call).map fun p => (p.1.withLog log, p.2) :=
        Worker.step_withLog S.worker log t.call
      simp only [withLog, Option.bind_some, Option.bind_eq_bind, moved]
      cases S.worker.step env t.call <;> rfl
  | giveUp k =>
    have same : (S.withLog log).tasks = S.tasks := rfl
    simp only [step, scored, List.append_nil, same]
    cases S.tasks[k]? with
    | none => rfl
    | some t =>
      have clock : (S.withLog log).worker.clock = S.worker.clock := rfl
      simp only [Option.bind_some, Option.bind_eq_bind, clock]
      split <;> rfl
  | consumer i =>
    simp only [step, scored, withLog, Worker.advance_withLog S.worker log ok i]
    cases S.worker.advance env i <;> rfl

theorem run_withLog (ok : env.store.Faultless) (S : System σ τ) (log : List Uuid)
    (events : List Event) : (S.withLog log).run env.logged events =
      (S.run env events).map (·.withLog (log ++ S.along env scored events)) := by
  induction events generalizing S log with
  | nil => simp [run, along]
  | cons e events ih =>
    rw [run, run, step_withLog ok]
    cases moved : S.step env e with
    | none => rfl
    | some T => simp [along, moved, ih]

/-- What is seen in a run without regard to the log is seen in the logged run. -/
theorem along_withLog (ok : env.store.Faultless) {f : System (σ × List Uuid) τ → Event → List α}
    {g : System σ τ → Event → List α} (same : ∀ S log e, f (S.withLog log) e = g S e)
    (S : System σ τ) (log : List Uuid) (events : List Event) :
    (S.withLog log).along env.logged f events = S.along env g events := by
  induction events generalizing S log with
  | nil => rfl
  | cons e events ih =>
    rw [along, along, step_withLog ok, same]
    cases S.step env e with
    | none => rfl
    | some T => simp [ih]

end System

end FixGrader
