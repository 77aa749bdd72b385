import FixGrader.Proofs.Worker.Logging
import FixGrader.Proofs.Worker.Recovery
import FixGrader.Proofs.Worker.Settling
import FixGrader.Scoring.Grading

namespace FixGrader

/-- Whether an event is one of consumers and of the clock alone. -/
def Event.isOwn : Event → Bool
  | .consumer _ | .wait _ => true
  | _ => false

namespace System

variable {σ τ : Type} {env : WorkerEnv σ τ} {S T R : System σ τ}

/-- `T` comes from `S` without any call. -/
def Progresses (env : WorkerEnv σ τ) (S T : System σ τ) : Prop :=
  ∃ events, S.run env events = some T ∧ ∀ e ∈ events, e.isOwn = true

theorem Progresses.refl (S : System σ τ) : Progresses env S S := ⟨[], rfl, by simp⟩

theorem Progresses.trans (h : Progresses env R S) (h' : Progresses env S T) :
    Progresses env R T := by
  obtain ⟨before, hS, own⟩ := h
  obtain ⟨after, hT, own'⟩ := h'
  refine ⟨before ++ after, run_append_eq_some.mpr ⟨S, hS, hT⟩, fun e he => ?_⟩
  exact (List.mem_append.mp he).elim (own e) (own' e)

theorem Progresses.of_advance {w : Worker σ τ} (h : S.worker.advance env 0 = some w) :
    Progresses env S ⟨w, S.tasks⟩ :=
  ⟨[.consumer 0], by simp [run, step, h], by simp [Event.isOwn]⟩

theorem Progresses.wait (S : System σ τ) (millis : Nat) :
    Progresses env S { S with worker.clock := S.worker.clock + millis } :=
  ⟨[.wait millis], rfl, by simp [Event.isOwn]⟩

theorem along_sends_of_own {events : List Event} (own : ∀ e ∈ events, e.isOwn = true) :
    S.along env sends events = [] := by
  induction events generalizing S with
  | nil => rfl
  | cons e events ih =>
    have none_ : S.sends e = [] := by
      cases e <;> first | rfl | cases own _ List.mem_cons_self
    rw [along, none_, List.nil_append]
    cases S.step env e with
    | none => rfl
    | some T => exact ih fun e he => own e (List.mem_cons_of_mem _ he)

/-- The one consumer is at a stage, and these messages are queued. -/
structure At (S : System σ τ) (stage : Stage) (queue : List Message) : Prop where
  consumers : S.worker.consumers = [stage]
  queue : S.worker.queue = queue

variable {queue queue' : List Message}

theorem At.enter {w : Worker σ τ} {tasks : List Task} {stage : Stage}
    (h : At ⟨w, tasks⟩ stage queue) (next : Stage) : At ⟨w.enter 0 next, tasks⟩ next queue where
  consumers := by
    have one : w.consumers = [stage] := h.consumers
    simp [Worker.enter, one]
  queue := h.queue

theorem At.progress {stage : Stage} (h : S.At stage queue) {w : Worker σ τ} {next : Stage}
    (goes : S.worker.advance env 0 = some (w.enter 0 next))
    (consumers : w.consumers = S.worker.consumers) (same : w.queue = queue') :
    ∃ T, Progresses env S T ∧ T.At next queue' := by
  have now : At ⟨w, S.tasks⟩ stage queue' := ⟨consumers.trans h.consumers, same⟩
  exact ⟨_, .of_advance goes, now.enter next⟩

theorem At.storing (ok : env.store.Faultless) {s : Submission} (h : S.At (.storing s) queue) :
    ∃ T, Progresses env S T ∧ T.At .acknowledging queue := by
  rcases saved : env.store.save s S.worker.store with ⟨f | ⟨⟩, store⟩
  · exact absurd (congrArg Prod.fst saved) (ok.save _ _ _)
  · have goes : S.worker.advance env 0 = some ({ S.worker with store }.release 0) := by
      simp [Worker.advance, h.consumers, Worker.saveThen, Worker.save, saved]
    exact h.progress goes rfl h.queue

theorem At.scored (ok : env.store.Faultless) {s : Submission} {outcome : PassOutcome} {due : Nat}
    (h : S.At (.scoring s outcome due) queue) (late : due ≤ S.worker.clock) :
    ∃ T, Progresses env S T ∧ T.At .acknowledging queue := by
  have goes : S.worker.advance env 0 = some
      (S.worker.enter 0 (.storing (Worker.concluded (env.date S.worker.clock) s outcome))) := by
    simp [Worker.advance, h.consumers, late]
  obtain ⟨T, hT, at_⟩ := h.progress goes rfl h.queue
  obtain ⟨U, hU, ends⟩ := at_.storing ok
  exact ⟨U, hT.trans hU, ends⟩

theorem At.scoring (ok : env.store.Faultless) {s : Submission} {outcome : PassOutcome} {due : Nat}
    (h : S.At (.scoring s outcome due) queue) :
    ∃ T, Progresses env S T ∧ T.At .acknowledging queue := by
  have waited : At { S with worker.clock := S.worker.clock + due } (.scoring s outcome due) queue :=
    ⟨h.consumers, h.queue⟩
  obtain ⟨T, hT, ends⟩ := waited.scored ok (Nat.le_add_left _ _)
  exact ⟨T, (Progresses.wait S due).trans hT, ends⟩

theorem At.marking (ok : env.store.Faultless) {s : Submission} (h : S.At (.marking s) queue) :
    ∃ T, Progresses env S T ∧ T.At .acknowledging queue := by
  rcases saved : env.store.save s S.worker.store with ⟨f | ⟨⟩, store⟩
  · exact absurd (congrArg Prod.fst saved) (ok.save _ _ _)
  · have goes : S.worker.advance env 0 =
        some (Worker.beginPass env { S.worker with store } 0 s) := by
      simp [Worker.advance, h.consumers, Worker.saveThen, Worker.save, saved]
    obtain ⟨T, hT, at_⟩ := h.progress goes rfl h.queue
    obtain ⟨U, hU, ends⟩ := at_.scoring ok
    exact ⟨U, hT.trans hU, ends⟩

theorem At.loading (ok : env.store.Faultless) {id : Uuid} (h : S.At (.loading id) queue) :
    ∃ T, Progresses env S T ∧ T.At .acknowledging queue := by
  rcases loaded : env.store.load id S.worker.store with ⟨f | found, store⟩
  · exact absurd (congrArg Prod.fst loaded) (ok.load _ _ _)
  have goes : S.worker.advance env 0 = some (S.worker.loadRecord env 0 id) := by
    simp [Worker.advance, h.consumers]
  simp only [Worker.loadRecord, Worker.load, loaded] at goes
  cases found with
  | none => exact h.progress goes rfl h.queue
  | some s =>
    dsimp only at goes
    split at goes
    · obtain ⟨T, hT, at_⟩ := h.progress goes rfl h.queue
      obtain ⟨U, hU, ends⟩ := at_.marking ok
      exact ⟨U, hT.trans hU, ends⟩
    · exact h.progress goes rfl h.queue

theorem At.receiving (ok : env.store.Faultless) (ids : List Uuid)
    (h : S.At .receiving (ids.map .score)) :
    ∃ T, Progresses env S T ∧ T.At .receiving [] := by
  induction ids generalizing S with
  | nil => exact ⟨S, .refl S, h⟩
  | cons id ids ih =>
    have goes : S.worker.advance env 0 = some (Worker.enter
        { S.worker with queue := ids.map .score, inFlight := some id } 0 (.loading id)) := by
      simp [Worker.advance, h.consumers, Worker.receive, h.queue]
    obtain ⟨T, hT, at_⟩ := h.progress goes rfl rfl
    obtain ⟨U, hU, ends⟩ := at_.loading ok
    have goes : U.worker.advance env 0 =
        some (Worker.enter { U.worker with pending := U.worker.pending - 1 } 0 .receiving) := by
      simp [Worker.advance, ends.consumers]
    obtain ⟨V, hV, again⟩ := ends.progress goes rfl ends.queue
    obtain ⟨W, hW, done⟩ := ih again
    exact ⟨W, ((hT.trans hU).trans hV).trans hW, done⟩

theorem exists_sends (env : WorkerEnv σ τ) (S : System σ τ) (ids : List Uuid) :
    ∃ events T, S.run env events = some T ∧
      (∀ r, .request r ∈ events → r.usesStore = false) ∧ S.along env sends events = ids ∧
      T.worker.consumers = S.worker.consumers ∧
      T.worker.queue = S.worker.queue ++ ids.map .score := by
  induction ids generalizing S with
  | nil => exact ⟨[], S, rfl, by simp, rfl, rfl, by simp⟩
  | cons id ids ih =>
    have sent : S.run env ((Request.enqueue id).events S.tasks.length 2) = some
        ⟨{ S.worker with
            queue := S.worker.queue ++ [.score id]
            pending := S.worker.pending + 1 },
          S.tasks ++ [⟨.enqueue id, .over .done⟩]⟩ := by
      rw [run_events, Request.call, run_last rfl, run_last rfl]
      rfl
    obtain ⟨events, T, hT, only, rest, consumers, queue⟩ := ih ⟨{ S.worker with
      queue := S.worker.queue ++ [.score id]
      pending := S.worker.pending + 1 }, S.tasks ++ [⟨.enqueue id, .over .done⟩]⟩
    refine ⟨_, T, run_append_eq_some.mpr ⟨_, sent, hT⟩, fun r hr => ?_, ?_, consumers, ?_⟩
    · obtain hr | hr := List.mem_append.mp hr
      · simp [Request.events] at hr
        subst hr
        rfl
      · exact only r hr
    · rw [along_append sends sent, rest]
      simp [Request.events, along, step, sends, setCall, Worker.step, Request.call, Call.sends]
    · simp [queue]

/-- A run of a new worker that sends `ids`, in this order, and works them off, while nobody else
uses the store. -/
structure Drains (env : WorkerEnv σ τ) (service : σ) (store : τ) (clock : Nat)
    (events : List Event) (ids : List Uuid) (S : System σ τ) : Prop where
  run : (fresh service store clock).run env events = some S
  only : ∀ r, .request r ∈ events → r.usesStore = false
  sends : (fresh service store clock).along env sends events = ids
  idle : S.worker.Idle

theorem At.idle (h : S.At .receiving []) : S.worker.Idle := by
  simp [Worker.Idle, Worker.queued, Worker.AllRest, h.consumers, h.queue, Stage.works]

theorem exists_drains (ok : env.store.Faultless) (service : σ) (store : τ) (clock : Nat)
    (ids : List Uuid) : ∃ events S, Drains env service store clock events ids S := by
  have started : (fresh service store clock).run env (Request.start.events 0 1) =
      some ⟨(fresh service store clock).worker.start, [⟨.start, .over .done⟩]⟩ := rfl
  obtain ⟨events, S, hS, only, sent, consumers, queue⟩ := exists_sends env
    ⟨(fresh service store clock).worker.start, [⟨.start, .over .done⟩]⟩ ids
  have waiting : S.At .waiting (ids.map .score) := ⟨consumers, queue⟩
  have goes : S.worker.advance env 0 = some (S.worker.enter 0 .receiving) := by
    simp [Worker.advance, waiting.consumers, Stage.hasQueue]
  obtain ⟨T, hT, at_⟩ := waiting.progress goes rfl waiting.queue
  obtain ⟨U, hU, done⟩ := at_.receiving ok
  obtain ⟨after, hafter, own⟩ := hT.trans hU
  have whole := run_append_eq_some.mpr ⟨S, hS, hafter⟩
  refine ⟨_, U, run_append_eq_some.mpr ⟨_, started, whole⟩, fun r hr => ?_, ?_, done.idle⟩
  · obtain hr | hr := List.mem_append.mp hr
    · obtain rfl : r = .start := by simpa [Request.events] using hr
      rfl
    · exact (List.mem_append.mp hr).elim (only r) fun hr => by cases own _ hr
  · rw [along_append sends started, along_append sends hS, sent, along_sends_of_own own,
      List.append_nil]
    rfl

variable {find : τ → Uuid → Option Submission} {outcome : String → String → PassOutcome}
  {service : σ} {store : τ} {clock : Nat} {events : List Event} {ids : List Uuid}

theorem Drains.alone (ok : env.store.Faultless) (h : Drains env service store clock events ids S) :
    ∃ readings, S.worker.desk [] = Desk.processAll env ⟨service, store, readings⟩ ids := by
  have rests := (follows (fun id st => ok.load id st _) (fun s st => ok.save s st _) h.only
    h.run).atRest h.idle.2 []
  have order := sends_eq h.run
  rw [h.idle.1, List.append_nil, h.sends] at order
  rw [← order] at rests
  exact ⟨_, rests.symm⟩

theorem Drains.view_eq (keeps : env.store.Keeps find) (ok : env.store.Faultless)
    (passes : ∀ v time s, (env.pass v time s).1 = outcome s.slug s.code)
    (h : Drains env service store clock events ids S) (id : Uuid) :
    Desk.view find S.worker.store id =
      if id ∈ ids then (Desk.view find store id).map (Submission.settled outcome)
      else Desk.view find store id := by
  obtain ⟨readings, alone⟩ := h.alone ok
  have same : S.worker.store =
      (Desk.processAll env ⟨service, store, readings⟩ ids).store := by rw [← alone]; rfl
  rw [same]
  exact Desk.view_processAll keeps ok passes _ ids id

theorem Drains.logged (ok : env.store.Faultless)
    (h : Drains env service store clock events ids S) :
    Drains env.logged (service, []) store clock events ids
      (S.withLog ((fresh service store clock).along env scored events)) where
  run := by
    have runs := run_withLog ok (fresh service store clock) [] events
    rw [h.run] at runs
    exact runs
  only := h.only
  sends := by
    have sees := along_withLog (f := System.sends) (g := System.sends) ok (fun _ _ _ => rfl)
      (fresh service store clock) [] events
    rw [← h.sends, ← sees]
    rfl
  idle := h.idle

theorem Drains.count_scored (keeps : env.store.Keeps find) (ok : env.store.Faultless)
    (passes : ∀ v time s, (env.pass v time s).1 = outcome s.slug s.code)
    (h : Drains env service store clock events ids S) {id : Uuid} {s : Submission}
    (stored : Desk.view find store id = some s) :
    ((fresh service store clock).along env scored events).count id =
      s.rounds outcome (ids.count id) := by
  have keeps' : env.logged.store.Keeps find := keeps
  have ok' : env.logged.store.Faultless := ok
  have passes' : ∀ v time s, (env.logged.pass v time s).1 = outcome s.slug s.code :=
    fun v => passes v.1
  have logs : Desk.Logs env.logged Prod.snd := fun _ _ _ => rfl
  obtain ⟨readings, alone⟩ := (h.logged ok).alone ok'
  have counted := Desk.count_log keeps' ok' passes' logs ⟨(service, []), store, readings⟩ ids stored
  rw [← alone] at counted
  simpa [Worker.desk, withLog, Worker.withLog] using counted

/-- Ids can be worked off, whatever they are. In which order they were sent, how often, and whether
they are sent again later does not show in the store, up to the dates of the last changes. A record
that its passes leave pending is scored once for each time that its id was sent. -/
theorem drained_alike (keeps : env.store.Keeps find) (ok : env.store.Faultless)
    (passes : ∀ v time s, (env.pass v time s).1 = outcome s.slug s.code) (store : τ)
    (ids : List Uuid) :
    (∀ service clock, ∃ events S, Drains env service store clock events ids S) ∧
      ∀ service clock events S, Drains env service store clock events ids S →
        (∀ ids', (∀ id, id ∈ ids' ↔ id ∈ ids) → ∀ service' clock' events' S',
          Drains env service' store clock' events' ids' S' →
            Desk.view find S'.worker.store = Desk.view find S.worker.store) ∧
        (∀ service' clock' events' S',
          Drains env service' S.worker.store clock' events' ids S' →
            Desk.view find S'.worker.store = Desk.view find S.worker.store) ∧
        ∀ id s a, find store id = some s → s.status = .pending →
          outcome s.slug s.code = .assessed a → a.status = .pending →
            (∃ r, find S.worker.store id = some r ∧ r.status = .pending) ∧
              ((fresh service store clock).along env scored events).count id = ids.count id := by
  refine ⟨fun service clock => exists_drains ok service store clock ids,
    fun service clock events S h => ⟨fun ids' same service' clock' events' S' h' => ?_,
      fun service' clock' events' S' h' => ?_, fun id s a stored due ends ungraded => ?_⟩⟩
  · funext id
    rw [h'.view_eq keeps ok passes, h.view_eq keeps ok passes]
    simp only [same]
  · funext id
    rw [h'.view_eq keeps ok passes, h.view_eq keeps ok passes]
    by_cases mem : id ∈ ids <;> simp [mem, Function.comp_def, Submission.settled_settled]
  · have viewed : Desk.view find store id = some s.undated := by rw [Desk.view, stored]; rfl
    have due' : s.undated.status = .pending := due
    have again : (s.undated.settled outcome).status = .pending :=
      Submission.status_settled_of_ungraded outcome due ends ungraded
    have now : ∃ q, Desk.view find S.worker.store id = some q ∧ q.status = .pending := by
      rw [h.view_eq keeps ok passes, viewed]
      by_cases mem : id ∈ ids <;> simp [mem, due', again]
    obtain ⟨q, viewed', pending⟩ := now
    obtain ⟨r, found, rfl⟩ := Option.map_eq_some_iff.mp viewed'
    refine ⟨⟨r, found, pending⟩, ?_⟩
    rw [h.count_scored keeps ok passes viewed, Submission.rounds_of_pending due' again]

/-- The rules decide, except for snippets at which a pass breaks. -/
def fragileOutcome (slug code : String) : PassOutcome :=
  if code = "boom" then .broke none else .assessed (({} : ScorePolicy).evaluate slug code)

def fragileEnv : WorkerEnv Unit CountedStore :=
  .ofOutcome (fun _ => none) (fun _ => none) fragileOutcome

def fragileStore : CountedStore :=
  { store := ⟨[.fresh ⟨1⟩ (fragileEnv.date 0) "rce_001" "eval(x)" none,
      .fresh ⟨2⟩ (fragileEnv.date 0) "xss_001" "boom" none,
      (Submission.fresh ⟨3⟩ (fragileEnv.date 0) "sqli_001" "pass" none).markError
        (fragileEnv.date 1) "down"]⟩ }

theorem drained_alike_mixed :
    fragileEnv.store.Keeps CountedStore.find? ∧ fragileEnv.store.Faultless ∧
      (∀ v time s, (fragileEnv.pass v time s).1 = fragileOutcome s.slug s.code) ∧
      ∃ events events' S S',
        Drains fragileEnv () fragileStore 0 events [⟨1⟩, ⟨2⟩, ⟨1⟩, ⟨3⟩, ⟨4⟩] S ∧
        Drains fragileEnv () fragileStore 9 events' [⟨4⟩, ⟨3⟩, ⟨2⟩, ⟨1⟩] S' ∧
        Desk.view CountedStore.find? S'.worker.store =
          Desk.view CountedStore.find? S.worker.store ∧
        (∃ r, S.worker.store.find? ⟨1⟩ = some r ∧ r.status = .pending) ∧
        ((fresh () fragileStore 0).along fragileEnv scored events).count ⟨1⟩ = 2 := by
  have keeps : fragileEnv.store.Keeps CountedStore.find? := WorkerEnv.ofOutcome_keeps _ _ _
  have ok : fragileEnv.store.Faultless := WorkerEnv.ofOutcome_faultless _
  have passes : ∀ v time s, (fragileEnv.pass v time s).1 = fragileOutcome s.slug s.code :=
    fun _ _ _ => rfl
  obtain ⟨runs, alike⟩ := drained_alike keeps ok passes fragileStore [⟨1⟩, ⟨2⟩, ⟨1⟩, ⟨3⟩, ⟨4⟩]
  obtain ⟨events, S, h⟩ := runs () 0
  obtain ⟨events', S', h'⟩ := exists_drains ok () fragileStore 9 [⟨4⟩, ⟨3⟩, ⟨2⟩, ⟨1⟩]
  obtain ⟨same, _, again⟩ := alike () 0 events S h
  obtain ⟨pending, twice⟩ := again ⟨1⟩ _ _ rfl rfl rfl rfl
  have alike_ : ∀ id : Uuid, id ∈ ([⟨4⟩, ⟨3⟩, ⟨2⟩, ⟨1⟩] : List Uuid) ↔
      id ∈ ([⟨1⟩, ⟨2⟩, ⟨1⟩, ⟨3⟩, ⟨4⟩] : List Uuid) := by
    intro id
    simp only [List.mem_cons, List.not_mem_nil, or_false]
    tauto
  exact ⟨keeps, ok, passes, events, events', S, S', h, h', same _ alike_ () 9 events' S' h',
    pending, twice⟩

end System

end FixGrader
