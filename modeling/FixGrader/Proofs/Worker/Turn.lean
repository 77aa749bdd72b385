import FixGrader.Proofs.Worker.System

namespace FixGrader

def Stage.saving? : Stage → Option Submission
  | marking s | storing s | retrying s | givingUp s => some s
  | _ => none

namespace Worker

variable {σ τ : Type} {env : WorkerEnv σ τ} {w w' : Worker σ τ} {i : Nat}

/-- What one step of consumer `i` makes of a worker. -/
inductive Turn (env : WorkerEnv σ τ) (w : Worker σ τ) (i : Nat) : Worker σ τ → Prop
  | letIn (at_ : w.consumers[i]? = some .waiting)
      (alone : ∀ stage ∈ w.consumers, stage.hasQueue = false) :
      Turn env w i (w.enter i .receiving)
  | halt {rest : List Message} (at_ : w.consumers[i]? = some .receiving)
      (head : w.queue = .stop :: rest) :
      Turn env w i ({ w with queue := rest }.enter i .finished)
  | begin {id : Uuid} {rest : List Message} (at_ : w.consumers[i]? = some .receiving)
      (head : w.queue = .score id :: rest) :
      Turn env w i ({ w with queue := rest, inFlight := some id }.enter i (.loading id))
  | loadBreaks {id : Uuid} {store : τ} (at_ : w.consumers[i]? = some (.loading id))
      (load : env.store.load id w.store = (.error .breaks, store)) :
      Turn env w i ({ w with store }.enter i .dead)
  | loadFails {id : Uuid} {e : StoreError} {store : τ}
      (at_ : w.consumers[i]? = some (.loading id))
      (load : env.store.load id w.store = (.error (.fails e), store)) :
      Turn env w i ({ w with store }.release i)
  | missing {id : Uuid} {store : τ} (at_ : w.consumers[i]? = some (.loading id))
      (load : env.store.load id w.store = (.ok none, store)) :
      Turn env w i ({ w with store }.release i)
  | skip {id : Uuid} {s : Submission} {store : τ} (at_ : w.consumers[i]? = some (.loading id))
      (load : env.store.load id w.store = (.ok (some s), store)) (other : s.status ≠ .pending) :
      Turn env w i ({ w with store }.release i)
  | take {id : Uuid} {s : Submission} {store : τ} (at_ : w.consumers[i]? = some (.loading id))
      (load : env.store.load id w.store = (.ok (some s), store)) (due : s.status = .pending) :
      Turn env w i
        ({ w with store }.enter i (.marking (s.markRunning (env.date w.clock))))
  | saveBreaks {stage : Stage} {s : Submission} {store : τ}
      (at_ : w.consumers[i]? = some stage) (saving : stage.saving? = some s)
      (save : env.store.save s w.store = (.error .breaks, store)) :
      Turn env w i ({ w with store }.enter i .dead)
  | markFails {s : Submission} {e : StoreError} {store : τ}
      (at_ : w.consumers[i]? = some (.marking s))
      (save : env.store.save s w.store = (.error (.fails e), store)) :
      Turn env w i ({ w with store }.release i)
  | pass {s : Submission} {store : τ} {outcome : PassOutcome} {millis : Nat} {service : σ}
      (at_ : w.consumers[i]? = some (.marking s))
      (save : env.store.save s w.store = (.ok (), store))
      (ends : env.pass w.service w.clock s = (outcome, millis, service)) :
      Turn env w i
        ({ w with store, service }.enter i (.scoring s outcome (w.clock + millis)))
  | conclude {s : Submission} {outcome : PassOutcome} {due : Nat}
      (at_ : w.consumers[i]? = some (.scoring s outcome due)) (late : due ≤ w.clock) :
      Turn env w i (w.enter i (.storing (concluded (env.date w.clock) s outcome)))
  | stored {stage : Stage} {s : Submission} {store : τ} (at_ : w.consumers[i]? = some stage)
      (saving : stage.saving? = some s) (unmarked : stage ≠ .marking s)
      (save : env.store.save s w.store = (.ok (), store)) :
      Turn env w i ({ w with store }.release i)
  | storeFails {s : Submission} {e : StoreError} {store : τ}
      (at_ : w.consumers[i]? = some (.storing s))
      (save : env.store.save s w.store = (.error (.fails e), store)) :
      Turn env w i ({ w with store }.enter i (.retrying s))
  | retryFails {s : Submission} {e : StoreError} {store : τ}
      (at_ : w.consumers[i]? = some (.retrying s))
      (save : env.store.save s w.store = (.error (.fails e), store)) :
      Turn env w i ({ w with store }.enter i (.givingUp (w.couldNotStore env s e)))
  | giveUpFails {s : Submission} {e : StoreError} {store : τ}
      (at_ : w.consumers[i]? = some (.givingUp s))
      (save : env.store.save s w.store = (.error (.fails e), store)) :
      Turn env w i ({ w with store }.release i)
  | acknowledge (at_ : w.consumers[i]? = some .acknowledging) :
      Turn env w i ({ w with pending := w.pending - 1 }.enter i .receiving)

theorem turn_of_saveThen {stage : Stage} {s : Submission} {next : Worker σ τ → Worker σ τ}
    {failed : StoreError → Worker σ τ → Worker σ τ} (at_ : w.consumers[i]? = some stage)
    (saving : stage.saving? = some s)
    (saved : ∀ store, env.store.save s w.store = (.ok (), store) →
      Turn env w i (next { w with store }))
    (fails : ∀ e store, env.store.save s w.store = (.error (.fails e), store) →
      Turn env w i (failed e { w with store })) :
    Turn env w i (w.saveThen env i s next failed) := by
  unfold saveThen save
  rcases h : env.store.save s w.store with ⟨(_ | e) | _, store⟩
  · exact fails _ _ h
  · exact .saveBreaks at_ saving h
  · exact saved _ h

theorem turn_of_advance (h : w.advance env i = some w') : Turn env w i w' := by
  unfold advance at h
  cases at_ : w.consumers[i]? with
  | none => simp [at_] at h
  | some stage =>
    rw [at_] at h
    cases stage with
    | waiting =>
      obtain ⟨alone, rfl⟩ := by simpa using h
      exact .letIn at_ (by simpa using alone)
    | receiving =>
      simp only [receive] at h
      split at h <;> cases h
      · exact .halt at_ ‹_›
      · exact .begin at_ ‹_›
    | loading id =>
      cases h
      unfold loadRecord load
      rcases hl : env.store.load id w.store with ⟨(_ | e) | (_ | s), store⟩
      · exact .loadFails at_ hl
      · exact .loadBreaks at_ hl
      · exact .missing at_ hl
      · by_cases hs : s.status = .pending
        · simp only [Status.canBecome_running_iff.mpr hs, if_true]
          exact .take at_ hl hs
        · simp only [mt Status.canBecome_running_iff.mp hs]
          exact .skip at_ hl hs
    | marking s =>
      cases h
      refine turn_of_saveThen at_ rfl (fun store hs => ?_) fun e store hs => .markFails at_ hs
      exact .pass at_ hs rfl
    | scoring s outcome due =>
      obtain ⟨late, rfl⟩ := by simpa using h
      exact .conclude at_ late
    | storing s =>
      cases h
      exact turn_of_saveThen at_ rfl (fun store hs => .stored at_ rfl nofun hs)
        fun e store hs => .storeFails at_ hs
    | retrying s =>
      cases h
      exact turn_of_saveThen at_ rfl (fun store hs => .stored at_ rfl nofun hs)
        fun e store hs => .retryFails at_ hs
    | givingUp s =>
      cases h
      exact turn_of_saveThen at_ rfl (fun store hs => .stored at_ rfl nofun hs)
        fun e store hs => .giveUpFails at_ hs
    | acknowledging => cases h; exact .acknowledge at_
    | finished | dead => simp at h

theorem stage_of_set {old new : Stage} (at_ : w.consumers[i]? = some old)
    (set : w'.consumers = w.consumers.set i new) : w'.consumers[i]? = some new := by
  rw [set]
  exact List.getElem?_set_self (List.getElem?_eq_some_iff.mp at_).1

theorem stage_of_enter {stage new : Stage} (now : (w.enter i stage).consumers[i]? = some new) :
    new = stage := by
  obtain ⟨_, h⟩ | ⟨h, _⟩ := getElem?_set_cases now
  · exact h
  · exact absurd rfl h

/-- What one step of a call makes of a worker, and of the call. -/
inductive CallTurn (env : WorkerEnv σ τ) (w : Worker σ τ) : Call → Worker σ τ → Call → Prop
  | start : CallTurn env w .start w.start (.over .done)
  | stopNone (none_ : w.current = none) : CallTurn env w .stop w (.over .done)
  | stopTake {i : Nat} (some_ : w.current = some i) :
      CallTurn env w .stop { w with current := none } (.stopping i)
  | stopOver {i : Nat} (ended : w.isOver i = true) :
      CallTurn env w (.stopping i) w (.over .done)
  | stopLive {i : Nat} (live : w.isOver i = false) :
      CallTurn env w (.stopping i) w (.sendStop i)
  | sendStop {i : Nat} :
      CallTurn env w (.sendStop i) { w with queue := w.queue ++ [.stop] }
        (.awaitExit i (w.clock + env.patience))
  | exited {i deadline : Nat} (ended : w.isOver i = true) :
      CallTurn env w (.awaitExit i deadline) w (.over .done)
  | count {id : Uuid} {next : Call} :
      CallTurn env w (.enqueue id next) { w with pending := w.pending + 1 } (.send id next)
  | send {id : Uuid} {next : Call} :
      CallTurn env w (.send id next) { w with queue := w.queue ++ [.score id] } next
  | flushed (none_ : w.pending = 0) : CallTurn env w .flush w (.over .done)
  | submitted {s : Submission} {store : τ} (save : env.store.save s w.store = (.ok (), store)) :
      CallTurn env w (.submit s) { w with store } (.enqueue s.id (.over (.accepted s.id)))
  | submitFault {s : Submission} {f : CallFault} {store : τ}
      (save : env.store.save s w.store = (.error f, store)) :
      CallTurn env w (.submit s) { w with store } (.fault f)
  | found {id : Uuid} {code : Option String} {s : Submission} {store : τ}
      (load : env.store.load id w.store = (.ok (some s), store)) :
      CallTurn env w (.rescore id code) { w with store } (.examine id s code)
  | notFound {id : Uuid} {code : Option String} {store : τ}
      (load : env.store.load id w.store = (.ok none, store)) :
      CallTurn env w (.rescore id code) { w with store } (.over (.refused (.notFound id)))
  | loadFault {id : Uuid} {code : Option String} {f : CallFault} {store : τ}
      (load : env.store.load id w.store = (.error f, store)) :
      CallTurn env w (.rescore id code) { w with store } (.fault f)
  | refuse {id : Uuid} {s : Submission} {code : Option String} (running : s.status = .running)
      (busy : w.inFlight = some id) :
      CallTurn env w (.examine id s code) w (.over (.refused (.notMovable id .running .pending)))
  | permit {id : Uuid} {s : Submission} {code : Option String}
      (free : ¬(s.status = .running ∧ w.inFlight = some id)) :
      CallTurn env w (.examine id s code) w (.restore id (s.reset (env.date w.clock) code))
  | restored {id : Uuid} {s : Submission} {store : τ}
      (save : env.store.save s w.store = (.ok (), store)) :
      CallTurn env w (.restore id s) { w with store } (.enqueue id (.over .done))
  | restoreFault {id : Uuid} {s : Submission} {f : CallFault} {store : τ}
      (save : env.store.save s w.store = (.error f, store)) :
      CallTurn env w (.restore id s) { w with store } (.fault f)
  | closed {source : List (Option Uuid)} (asked : w.shutdown = true) :
      CallTurn env w (.pull source) w (.over .done)
  | opened {source : List (Option Uuid)} (unasked : w.shutdown = false) :
      CallTurn env w (.pull source) w (.beginPop source)
  | beginPop {source : List (Option Uuid)} :
      CallTurn env w (.beginPop source) w (.awaitPop source)
  | popNone {source : List (Option Uuid)} :
      CallTurn env w (.awaitPop (none :: source)) w (.pull source)
  | popId {id : Uuid} {source : List (Option Uuid)} :
      CallTurn env w (.awaitPop (some id :: source)) w (.enqueue id (.pull source))

theorem callTurn_of_step {c c' : Call} (h : w.step env c = some (w', c')) :
    CallTurn env w c w' c' := by
  cases c with
  | start => cases h; exact .start
  | stop =>
    simp only [step] at h
    split at h <;> cases h
    · exact .stopNone ‹_›
    · exact .stopTake ‹_›
  | stopping i =>
    cases h
    cases hi : w.isOver i
    · exact .stopLive hi
    · exact .stopOver hi
  | sendStop i => cases h; exact .sendStop
  | awaitExit i deadline =>
    obtain ⟨ended, rfl, rfl⟩ := by simpa [step] using h
    exact .exited ended
  | enqueue id next => cases h; exact .count
  | send id next => cases h; exact .send
  | flush =>
    obtain ⟨none_, rfl, rfl⟩ := by simpa [step] using h
    exact .flushed none_
  | submit s =>
    simp only [step] at h
    unfold saveFor save at h
    rcases hs : env.store.save s w.store with ⟨f | _, store⟩ <;> rw [hs] at h <;> cases h
    · exact .submitFault hs
    · exact .submitted hs
  | rescore id code =>
    simp only [step] at h
    unfold load at h
    rcases hl : env.store.load id w.store with ⟨f | (_ | s), store⟩ <;> rw [hl] at h <;> cases h
    · exact .loadFault hl
    · exact .notFound hl
    · exact .found hl
  | examine id s code =>
    simp only [step] at h
    split at h <;> cases h
    · exact .refuse (‹_ ∧ _›).1 (‹_ ∧ _›).2
    · exact .permit ‹_›
  | restore id s =>
    simp only [step] at h
    unfold saveFor save at h
    rcases hs : env.store.save s w.store with ⟨f | _, store⟩ <;> rw [hs] at h <;> cases h
    · exact .restoreFault hs
    · exact .restored hs
  | pull source =>
    cases h
    cases asked : w.shutdown
    · exact .opened asked
    · exact .closed asked
  | beginPop source => cases h; exact .beginPop
  | awaitPop source =>
    rcases source with _ | ⟨_ | id, source⟩ <;> cases h
    · exact .popNone
    · exact .popId
  | _ => cases h

end Worker

namespace System

variable {σ τ : Type} {env : WorkerEnv σ τ} {S T : System σ τ} {e : Event}

/-- What an event makes of a system. -/
inductive Happens (env : WorkerEnv σ τ) (S : System σ τ) : Event → System σ τ → Prop
  | request (r : Request) :
      Happens env S (.request r) { S with tasks := S.tasks ++ [⟨r, r.call⟩] }
  | call {k : Nat} {t : Task} {w : Worker σ τ} {c : Call} (at_ : S.tasks[k]? = some t)
      (turn : S.worker.CallTurn env t.call w c) : Happens env S (.call k) (S.setCall k t w c)
  | giveUp {k i deadline : Nat} {r : Request} (at_ : S.tasks[k]? = some ⟨r, .awaitExit i deadline⟩)
      (late : deadline ≤ S.worker.clock) :
      Happens env S (.giveUp k) (S.setCall k ⟨r, .awaitExit i deadline⟩ S.worker (.over .done))
  | consumer {i : Nat} {w : Worker σ τ} (turn : S.worker.Turn env i w) :
      Happens env S (.consumer i) { S with worker := w }
  | wait (millis : Nat) :
      Happens env S (.wait millis) { S with worker.clock := S.worker.clock + millis }
  | shutdown : Happens env S .shutdown { S with worker.shutdown := true }

theorem happens_of_step (h : S.step env e = some T) : Happens env S e T := by
  cases e with
  | request r => cases h; exact .request r
  | call k =>
    obtain ⟨t, ht, w, c, hc, rfl⟩ := by simpa [step, Option.bind_eq_some_iff] using h
    exact .call ht (Worker.callTurn_of_step hc)
  | giveUp k =>
    simp only [step] at h
    obtain ⟨⟨r, c⟩, ht, h⟩ := Option.bind_eq_some_iff.mp h
    cases c <;> simp [Call.deadline?] at h
    obtain ⟨late, rfl⟩ := h
    exact .giveUp ht late
  | consumer i =>
    obtain ⟨w, hw, rfl⟩ := Option.map_eq_some_iff.mp h
    exact .consumer (Worker.turn_of_advance hw)
  | wait millis => cases h; exact .wait millis
  | shutdown => cases h; exact .shutdown

theorem Happens.task_cases (h : Happens env S e T) {k : Nat} {u : Task}
    (at_ : T.tasks[k]? = some u) :
    e ≠ .call k ∧ S.tasks[k]? = some u ∨
      (∃ r, e = .request r ∧ k = S.tasks.length ∧ u = ⟨r, r.call⟩) ∨
      (∃ t, e = .call k ∧ S.tasks[k]? = some t ∧ u.request = t.request ∧
        S.worker.CallTurn env t.call T.worker u.call) ∨
      u.call = .over .done := by
  cases h with
  | request r =>
    obtain at_ | ⟨hk, rfl⟩ := getElem?_concat_cases at_
    · exact .inl ⟨nofun, at_⟩
    · exact .inr (.inl ⟨r, rfl, hk, rfl⟩)
  | call before turn =>
    obtain ⟨rfl, rfl⟩ | ⟨ne, at_⟩ := getElem?_set_cases at_
    · exact .inr (.inr (.inl ⟨_, rfl, before, rfl, turn⟩))
    · exact .inl ⟨fun he => ne (Event.call.inj he), at_⟩
  | giveUp =>
    obtain ⟨_, rfl⟩ | ⟨_, at_⟩ := getElem?_set_cases at_
    · exact .inr (.inr (.inr rfl))
    · exact .inl ⟨nofun, at_⟩
  | consumer | wait | shutdown => exact .inl ⟨nofun, at_⟩

theorem Happens.keeps_task (h : Happens env S e T) {k : Nat} {t : Task}
    (at_ : S.tasks[k]? = some t) (ne : e ≠ .call k) (busy : t.call.deadline? = none) :
    T.tasks[k]? = some t := by
  cases h with
  | request =>
    exact (List.getElem?_append_left (List.getElem?_eq_some_iff.mp at_).1).trans at_
  | @call j =>
    have hjk : j ≠ k := fun h => ne (congrArg Event.call h)
    exact (List.getElem?_set_ne hjk).trans at_
  | @giveUp j _ _ _ before =>
    have hjk : j ≠ k := by
      rintro rfl
      cases at_.symm.trans before
      cases busy
    exact (List.getElem?_set_ne hjk).trans at_
  | consumer | wait | shutdown => exact at_

theorem Happens.request_mem (h : Happens env S e T) {t : Task} (mem : t ∈ T.tasks) :
    (∃ u ∈ S.tasks, u.request = t.request) ∨ e = .request t.request := by
  cases h with
  | request r =>
    obtain mem | mem := List.mem_append.mp mem
    · exact .inl ⟨t, mem, rfl⟩
    · obtain rfl := List.mem_singleton.mp mem
      exact .inr rfl
  | call at_ | giveUp at_ =>
    obtain mem | rfl := List.mem_or_eq_of_mem_set mem
    · exact .inl ⟨t, mem, rfl⟩
    · exact .inl ⟨_, List.mem_of_getElem? at_, rfl⟩
  | consumer | wait | shutdown => exact .inl ⟨t, mem, rfl⟩

theorem request_mem {events : List Event} {service : σ} {store : τ} {clock : Nat}
    (h : (fresh service store clock).run env events = some S) :
    ∀ t ∈ S.tasks, .request t.request ∈ events := by
  refine run_induction (motive := fun events S => ∀ t ∈ S.tasks, .request t.request ∈ events)
    ?_ ?_ h
  · intro t ht
    simp [fresh] at ht
  · intro events R e T _ ih hT t ht
    obtain ⟨u, hu, same⟩ | rfl := (happens_of_step hT).request_mem ht
    · exact List.mem_append_left _ (same ▸ ih u hu)
    · simp

end System

end FixGrader
