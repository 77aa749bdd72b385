import FixGrader.Proofs.Worker.Recovery

namespace FixGrader

/-- The store in memory. A call with one of these numbers fails with this error, loads and saves
being counted apart from 0. -/
def StoreAccess.flaky (loadError saveError : Nat → Option StoreError) : StoreAccess CountedStore :=
  .inMemory (fun n => (loadError n).map .fails) fun n => (saveError n).map .fails

namespace StoreAccess

variable {loadError saveError : Nat → Option StoreError}

theorem flaky_keeps : (flaky loadError saveError).Keeps CountedStore.find? := inMemory_keeps _ _

theorem flaky_load (id : Uuid) (st : CountedStore) : (flaky loadError saveError).load id st =
    (match loadError st.loads with
      | some e => .error (.fails e)
      | none => .ok (st.find? id), { st with loads := st.loads + 1 }) := by
  cases h : loadError st.loads <;> simp [flaky, inMemory, h, CountedStore.find?]

theorem flaky_save (loadError saveError : Nat → Option StoreError) (s : Submission)
    (st : CountedStore) : (flaky loadError saveError).save s st =
    match saveError st.saves with
    | some e => (.error (.fails e), { st with saves := st.saves + 1 })
    | none => (.ok (), { st with
        saves := st.saves + 1, store := st.store.save s, saved := st.saved ++ [s] }) := by
  cases h : saveError st.saves <;> simp [flaky, inMemory, h]

theorem flaky_load_ne_breaks (id : Uuid) (st : CountedStore) :
    ((flaky loadError saveError).load id st).1 ≠ .error .breaks := by
  rw [flaky_load]
  cases loadError st.loads <;> simp

theorem flaky_save_ne_breaks (s : Submission) (st : CountedStore) :
    ((flaky loadError saveError).save s st).1 ≠ .error .breaks := by
  rw [flaky_save]
  cases saveError st.saves <;> simp

end StoreAccess

namespace Submission

def resultOf (date : Instant) (running : Submission) : PassOutcome → Submission
  | .assessed a =>
    if a.status = .running then
      running.markError date "invalid status transition to running"
    else running.apply date a
  | .broke text => running.markError date (text.getD "scoring task panicked")

theorem concluded_of_running (date : Instant) {s : Submission} (running : s.status = .running)
    (o : PassOutcome) : Worker.concluded date s o = s.resultOf date o := by
  cases o with
  | broke text => rfl
  | assessed a =>
    by_cases again : a.status = .running
    · have stays : ¬s.status.canBecome .running = true := by
        rw [running]
        exact fun moves => Status.running_canBecome_iff.mp moves rfl
      simp only [Worker.concluded, resultOf, again, stays, if_true]
      rfl
    · have moves : s.status.canBecome a.status = true := by
        rw [running]
        exact Status.running_canBecome_iff.mpr again
      simp only [Worker.concluded, moves, resultOf, again, if_true, if_false]

/-- What is left of a running record, by what becomes of up to three saves after its pass. -/
def leftBy (running result : Submission) (lost : Instant) :
    Option StoreError → Option StoreError → Option StoreError → Submission
  | none, _, _ => result
  | some _, none, _ => result
  | some _, some e, none => running.markError lost s!"failed to store result: {e.message}"
  | some _, some _, some _ => running

theorem markError_concluded (date lost : Instant) (s : Submission) (o : PassOutcome)
    (fault : String) :
    (Worker.concluded date s o).markError lost fault = s.markError lost fault := by
  unfold Worker.concluded
  split
  · split <;> rfl
  · rfl

end Submission

namespace Desk

variable {σ : Type} {env : WorkerEnv σ CountedStore} {loadError saveError : Nat → Option StoreError}

/-- Between two desks `n` saves were tried, and after them `find` is what is stored. -/
structure Wrote (d d' : Desk σ CountedStore) (n : Nat) (find : Uuid → Option Submission) :
    Prop where
  service : d'.service = d.service
  saves : d'.store.saves = d.store.saves + n
  find : d'.store.find? = find

theorem Wrote.trans {d d' d'' : Desk σ CountedStore} {n m : Nat}
    {find find' : Uuid → Option Submission} (h : d.Wrote d' n find) (h' : d'.Wrote d'' m find') :
    d.Wrote d'' (n + m) find' where
  service := h'.service.trans h.service
  saves := by rw [h'.saves, h.saves, Nat.add_assoc]
  find := h'.find

theorem save_fails (flaky : env.store = .flaky loadError saveError) {d : Desk σ CountedStore}
    (s : Submission) {e : StoreError} (fails : saveError d.store.saves = some e) :
    ∃ d', d.save env s = (.error (.fails e), d') ∧ d.Wrote d' 1 d.store.find? := by
  have save := StoreAccess.flaky_save loadError saveError s d.store
  rw [fails, ← flaky] at save
  simp only [Desk.save, save]
  exact ⟨_, rfl, rfl, rfl, rfl⟩

theorem save_works (flaky : env.store = .flaky loadError saveError) {d : Desk σ CountedStore}
    (s : Submission) (works : saveError d.store.saves = none) :
    ∃ d', d.save env s = (.ok (), d') ∧
      d.Wrote d' 1 (Function.update d.store.find? s.id (some s)) := by
  have save := StoreAccess.flaky_save loadError saveError s d.store
  rw [works, ← flaky] at save
  have keeps : env.store.Keeps CountedStore.find? := flaky ▸ StoreAccess.flaky_keeps
  have stored := Worker.find_of_save keeps save
  simp only [Desk.save, save]
  exact ⟨_, rfl, rfl, rfl, stored⟩

theorem giveUp_works (flaky : env.store = .flaky loadError saveError) {d : Desk σ CountedStore}
    (s : Submission) (works : saveError d.store.saves = none) :
    d.Wrote (d.giveUp env s) 1 (Function.update d.store.find? s.id (some s)) := by
  obtain ⟨d', save, wrote⟩ := save_works flaky s works
  rwa [giveUp, save]

theorem giveUp_fails (flaky : env.store = .flaky loadError saveError) {d : Desk σ CountedStore}
    (s : Submission) {e : StoreError} (fails : saveError d.store.saves = some e) :
    d.Wrote (d.giveUp env s) 1 d.store.find? := by
  obtain ⟨d', save, wrote⟩ := save_fails flaky s fails
  rwa [giveUp, save]

theorem retry_wrote (flaky : env.store = .flaky loadError saveError) {d : Desk σ CountedStore}
    {running s : Submission} (stored : d.store.find? running.id = some running)
    (named : s.id = running.id)
    (blame : ∀ date fault, s.markError date fault = running.markError date fault)
    (e : StoreError) :
    ∃ n ≤ 2, ∃ time, d.Wrote (d.retry env s) n (Function.update d.store.find? running.id
      (some (running.leftBy s (env.date time) (some e) (saveError d.store.saves)
        (saveError (d.store.saves + 1))))) := by
  cases first : saveError d.store.saves with
  | none =>
    obtain ⟨d₁, save, wrote⟩ := save_works flaky s first
    simp only [retry, save, Submission.leftBy, ← named]
    exact ⟨1, by omega, 0, wrote⟩
  | some fault =>
    obtain ⟨d₁, save, wrote⟩ := save_fails flaky s first
    simp only [retry, save, blame]
    refine ⟨2, Nat.le_refl 2, d.now, ?_⟩
    cases second : saveError (d.store.saves + 1) with
    | none =>
      rw [← wrote.saves] at second
      have last := giveUp_works flaky (running.markError (env.date d.now)
        s!"failed to store result: {fault.message}") second
      rw [wrote.find] at last
      exact wrote.trans last
    | some _ =>
      rw [← wrote.saves] at second
      have last := giveUp_fails flaky (running.markError (env.date d.now)
        s!"failed to store result: {fault.message}") second
      -- No save has worked, and what is stored is still the running record.
      have same : Function.update d.store.find? running.id (some running) = d.store.find? := by
        rw [← stored, Function.update_eq_self]
      rw [wrote.find] at last
      simp only [Submission.leftBy, same]
      exact wrote.trans last

/-- The outcome of a pass is saved once or twice, and an error in its place if need be. -/
theorem persist_wrote (flaky : env.store = .flaky loadError saveError) {d : Desk σ CountedStore}
    {running s : Submission} (stored : d.store.find? running.id = some running)
    (named : s.id = running.id)
    (blame : ∀ date fault, s.markError date fault = running.markError date fault) :
    ∃ n ≤ 3, ∃ time, d.Wrote (d.persist env s) n (Function.update d.store.find? running.id
      (some (running.leftBy s (env.date time) (saveError d.store.saves)
        (saveError (d.store.saves + 1)) (saveError (d.store.saves + 2))))) := by
  cases first : saveError d.store.saves with
  | none =>
    obtain ⟨d₁, save, wrote⟩ := save_works flaky s first
    simp only [persist, save, Submission.leftBy, ← named]
    exact ⟨1, by omega, 0, wrote⟩
  | some e =>
    obtain ⟨d₁, save, wrote⟩ := save_fails flaky s first
    rw [← wrote.find] at stored
    obtain ⟨n, few, time, again⟩ := retry_wrote flaky stored named blame e
    rw [wrote.find, wrote.saves] at again
    simp only [persist, save]
    exact ⟨1 + n, by omega, time, wrote.trans again⟩

theorem mark_scores (flaky : env.store = .flaky loadError saveError) {d : Desk σ CountedStore}
    (s : Submission) (works : saveError d.store.saves = none) :
    (d.mark env s).service = (env.pass d.service d.now s).2.2 ∧
      ∃ n ≤ 4, (d.mark env s).store.saves = d.store.saves + n ∧
        ∃ ended lost, (d.mark env s).store.find? = Function.update d.store.find? s.id (some
          (s.leftBy (Worker.concluded (env.date ended) s (env.pass d.service d.now s).1)
            (env.date lost) (saveError (d.store.saves + 1)) (saveError (d.store.saves + 2))
            (saveError (d.store.saves + 3)))) := by
  obtain ⟨d₁, save, wrote₁⟩ := save_works flaky s works
  have passed : env.pass d₁.service d.now s = env.pass d.service d.now s := by rw [wrote₁.service]
  rcases ends : env.pass d.service d.now s with ⟨outcome, millis, service⟩
  rw [mark_eq save (passed.trans ends)]
  have stored : d₁.store.find? s.id = some s := by rw [wrote₁.find, Function.update_self]
  obtain ⟨n, few, lost, wrote⟩ := persist_wrote flaky
    (d := ⟨service, d₁.store, d₁.readings.tail⟩)
    (s := Worker.concluded (env.date d₁.now) s outcome) stored (Worker.concluded_id ..)
    fun _ _ => s.markError_concluded _ _ _ _
  refine ⟨wrote.service, 1 + n, by omega, ?_, d₁.now, lost, ?_⟩
  · exact wrote.saves.trans (by rw [wrote₁.saves, Nat.add_assoc])
  · have found := wrote.find
    simp only [wrote₁.find, wrote₁.saves, Function.update_idem] at found
    exact found

theorem mark_fails (flaky : env.store = .flaky loadError saveError) {d : Desk σ CountedStore}
    (s : Submission) {e : StoreError} (fails : saveError d.store.saves = some e) :
    d.Wrote (d.mark env s) 1 d.store.find? := by
  obtain ⟨d', save, wrote⟩ := save_fails flaky s fails
  simp only [mark, save]
  exact wrote

theorem load_eq (flaky : env.store = .flaky loadError saveError) (d : Desk σ CountedStore)
    (id : Uuid) : d.load env id =
      (match loadError d.store.loads with
        | some e => .error (.fails e)
        | none => .ok (d.store.find? id),
        ⟨d.service, { d.store with loads := d.store.loads + 1 }, d.readings.tail⟩) := by
  simp only [Desk.load, flaky, StoreAccess.flaky_load]

theorem process_idle (flaky : env.store = .flaky loadError saveError) (d : Desk σ CountedStore)
    (id : Uuid)
    (idle : loadError d.store.loads ≠ none ∨
      ∀ s, d.store.find? id = some s → s.status ≠ .pending) :
    d.Wrote (d.process env id) 0 d.store.find? := by
  have load := load_eq flaky d id
  cases failed : loadError d.store.loads with
  | some e =>
    rw [failed] at load
    simp only [process, load]
    exact ⟨rfl, rfl, rfl⟩
  | none =>
    rw [failed] at load
    cases found : d.store.find? id with
    | none =>
      rw [found] at load
      simp only [process, load]
      exact ⟨rfl, rfl, rfl⟩
    | some s =>
      rw [found] at load
      have other : s.status ≠ .pending := by simpa [failed, found] using idle
      simp only [process, load, mt Status.canBecome_running_iff.mp other]
      exact ⟨rfl, rfl, rfl⟩

theorem process_due (flaky : env.store = .flaky loadError saveError) (d : Desk σ CountedStore)
    {id : Uuid} {s : Submission} (loads : loadError d.store.loads = none)
    (found : d.store.find? id = some s) (due : s.status = .pending) :
    ∃ d', d.process env id = d'.mark env (s.markRunning (env.date d.now)) ∧
      d.Wrote d' 0 d.store.find? := by
  have load := load_eq flaky d id
  rw [loads, found] at load
  simp only [process, load, Status.canBecome_running_iff.mpr due, if_true]
  exact ⟨_, rfl, rfl, rfl, rfl⟩

theorem process_skips (flaky : env.store = .flaky loadError saveError) (d : Desk σ CountedStore)
    (id : Uuid)
    (skips : loadError d.store.loads ≠ none ∨
      (∀ s, d.store.find? id = some s → s.status ≠ .pending) ∨ saveError d.store.saves ≠ none) :
    ∃ n ≤ 4, d.Wrote (d.process env id) n d.store.find? := by
  by_cases idle : loadError d.store.loads ≠ none ∨
      ∀ s, d.store.find? id = some s → s.status ≠ .pending
  · exact ⟨0, by omega, process_idle flaky d id idle⟩
  · simp only [not_or, not_forall, not_not] at idle
    obtain ⟨loads, s, found, due⟩ := idle
    have fails : saveError d.store.saves ≠ none := by
      simpa [loads, found, due] using skips
    obtain ⟨e, fails⟩ := Option.ne_none_iff_exists'.mp fails
    obtain ⟨d₀, process, wrote⟩ := process_due flaky d loads found due
    rw [← Nat.add_zero d.store.saves, ← wrote.saves] at fails
    have marked := mark_fails flaky (s.markRunning (env.date d.now)) fails
    rw [wrote.find] at marked
    rw [process]
    exact ⟨1, by omega, by simpa using wrote.trans marked⟩

theorem process_scores (flaky : env.store = .flaky loadError saveError) (d : Desk σ CountedStore)
    {id : Uuid} {s : Submission} (loads : loadError d.store.loads = none)
    (found : d.store.find? id = some s) (due : s.status = .pending)
    (marks : saveError d.store.saves = none) :
    ∃ marked passed ended lost, (d.process env id).service =
        (env.pass d.service passed (s.markRunning (env.date marked))).2.2 ∧
      (∃ n ≤ 4, (d.process env id).store.saves = d.store.saves + n) ∧
      (d.process env id).store.find? = Function.update d.store.find? id (some
        ((s.markRunning (env.date marked)).leftBy
          ((s.markRunning (env.date marked)).resultOf (env.date ended)
            (env.pass d.service passed (s.markRunning (env.date marked))).1)
          (env.date lost) (saveError (d.store.saves + 1)) (saveError (d.store.saves + 2))
          (saveError (d.store.saves + 3)))) := by
  obtain ⟨d₀, process, wrote⟩ := process_due flaky d loads found due
  have keeps : env.store.Keeps CountedStore.find? := flaky ▸ StoreAccess.flaky_keeps
  have named : s.id = id := keeps.named _ _ _ found
  have marked : (s.markRunning (env.date d.now)).id = id := named
  have saves : d₀.store.saves = d.store.saves := wrote.saves
  have same : d₀.service = d.service := wrote.service
  rw [← saves] at marks
  obtain ⟨service, n, few, count, ended, lost, left⟩ :=
    mark_scores flaky (s.markRunning (env.date d.now)) marks
  rw [saves] at count
  rw [process]
  refine ⟨d.now, d₀.now, ended, lost, ?_, ⟨n, few, count⟩, ?_⟩
  · rw [service, same]
  · rw [left, wrote.find, saves, same, marked, Submission.concluded_of_running _ rfl]

end Desk

/-- How many steps of its work a consumer at this stage has before it, at most. -/
def Stage.ahead : Stage → Nat
  | loading _ => 6
  | marking _ => 5
  | scoring .. => 4
  | storing _ => 3
  | retrying _ => 2
  | givingUp _ => 1
  | _ => 0

namespace Worker

variable {σ τ : Type} {env : WorkerEnv σ τ} {w w' : Worker σ τ} {i : Nat}

/-- If the store breaks no call, a step of work comes nearer to the end of the work. -/
theorem Turn.approaches (loads : ∀ id st, (env.store.load id st).1 ≠ .error .breaks)
    (saves : ∀ s st, (env.store.save s st).1 ≠ .error .breaks) (h : Turn env w i w') {old : Stage}
    (at_ : w.consumers[i]? = some old) (works : old.works = true) :
    ∃ new, w'.consumers[i]? = some new ∧ new.ahead < old.ahead ∧
      (new.works = true ∨ new = .acknowledging) := by
  have now (new : Stage) : (w.consumers.set i new)[i]? = some new :=
    List.getElem?_set_self (List.getElem?_eq_some_iff.mp at_).1
  cases h with
  | letIn at_' | halt at_' | begin at_' | acknowledge at_' =>
    cases at_.symm.trans at_'
    cases works
  | loadBreaks _ load => exact absurd (congrArg Prod.fst load) (loads _ _)
  | saveBreaks _ _ save => exact absurd (congrArg Prod.fst save) (saves _ _)
  | loadFails at_' | missing at_' | skip at_' | markFails at_' | giveUpFails at_' =>
    cases at_.symm.trans at_'
    exact ⟨_, now _, by simp [Stage.ahead], .inr rfl⟩
  | take at_' | pass at_' | conclude at_' | storeFails at_' | retryFails at_' =>
    cases at_.symm.trans at_'
    exact ⟨_, now _, by simp [Stage.ahead], .inl rfl⟩
  | stored at_' saving =>
    cases at_.symm.trans at_'
    refine ⟨_, now _, ?_, .inr rfl⟩
    cases old <;> cases saving <;> simp [Stage.ahead]

theorem Turn.ne_dead (loads : ∀ id st, (env.store.load id st).1 ≠ .error .breaks)
    (saves : ∀ s st, (env.store.save s st).1 ≠ .error .breaks) (h : Turn env w i w') {stage : Stage}
    (at_ : w'.consumers[i]? = some stage) : stage ≠ .dead := by
  rintro rfl
  cases h with
  | loadBreaks _ load => exact loads _ _ (congrArg Prod.fst load)
  | saveBreaks _ _ save => exact saves _ _ (congrArg Prod.fst save)
  | _ => cases stage_of_enter at_

theorem exists_advance {stage : Stage} (at_ : w.consumers[i]? = some stage)
    (works : stage.works = true) (late : ∀ due, stage.due? = some due → due ≤ w.clock) :
    ∃ w', w.advance env i = some w' := by
  cases stage with
  | scoring s outcome due =>
    have late := late due rfl
    simp [advance, at_, late]
  | loading | marking | storing | retrying | givingUp => simp [advance, at_]
  | _ => cases works

end Worker

namespace System

variable {σ τ : Type} {env : WorkerEnv σ τ} {S T : System σ τ} {i : Nat} {events : List Event}
  {service : σ} {store : τ} {clock : Nat}

theorem alive_of_unbroken (loads : ∀ id st, (env.store.load id st).1 ≠ .error .breaks)
    (saves : ∀ s st, (env.store.save s st).1 ≠ .error .breaks)
    (h : (fresh service store clock).run env events = some S) : S.Alive := by
  refine run_induction (motive := fun _ S => S.Alive) (by simp [Alive, fresh]) ?_ h
  intro _ R e T _ alive hT mem
  obtain ⟨i, at_⟩ := List.getElem?_of_mem mem
  obtain ⟨_, before⟩ | dead | ⟨rfl, turn⟩ := (happens_of_step hT).stage_cases at_
  · exact alive (List.mem_of_getElem? before)
  · cases dead
  · exact turn.ne_dead loads saves at_ rfl

/-- A consumer at work comes to the end of its work, by its own steps, if time passes. -/
theorem exists_acknowledging (loads : ∀ id st, (env.store.load id st).1 ≠ .error .breaks)
    (saves : ∀ s st, (env.store.save s st).1 ≠ .error .breaks) {stage : Stage}
    (at_ : S.worker.consumers[i]? = some stage) (works : stage.works = true) :
    ∃ events T, S.run env events = some T ∧ (∀ r, .request r ∉ events) ∧
      S.along env begins events = [] ∧ T.worker.consumers[i]? = some .acknowledging := by
  -- One step at a time, each after a wait that is long enough for a pass to end.
  generalize bound : stage.ahead = n
  induction n using Nat.strongRecOn generalizing S stage with
  | ind n ih =>
    let w : Worker σ τ := { S.worker with clock := S.worker.clock + stage.due?.getD 0 }
    have late : ∀ due, stage.due? = some due → due ≤ w.clock := by
      intro due waits
      simp [w, waits]
    obtain ⟨w', goes⟩ := Worker.exists_advance (w := w) at_ works late
    obtain ⟨new, now, nearer, ends⟩ :=
      (Worker.turn_of_advance goes).approaches loads saves at_ works
    have first : S.run env [.wait (stage.due?.getD 0), .consumer i] = some ⟨w', S.tasks⟩ := by
      simp [run, step, w, goes]
    have idle : w.begins i = [] := Worker.begins_eq_nil at_ (by rintro rfl; cases works)
    have begun : S.along env begins [.wait (stage.due?.getD 0), .consumer i] = [] := by
      simp [along, step, begins, idle, w, goes]
    obtain works' | rfl := ends
    · obtain ⟨events, T, hT, none_, begun', ends⟩ :=
        ih new.ahead (bound ▸ nearer) (S := ⟨w', S.tasks⟩) now works' rfl
      refine ⟨_, T, run_append_eq_some.mpr ⟨_, first, hT⟩, by simpa using none_, ?_, ends⟩
      rw [along_append begins first, begun, begun', List.append_nil]
    · exact ⟨_, _, first, by simp, begun, now⟩

/-- What a worker's service and store are after the work on an id, if nobody else uses the store. -/
theorem desk_of_cycle (loads : ∀ id st, (env.store.load id st).1 ≠ .error .breaks)
    (saves : ∀ s st, (env.store.save s st).1 ≠ .error .breaks) (one : S.worker.OneHasQueue)
    (leaves : S.LeavesStore) {id : Uuid} (at_ : S.worker.consumers[i]? = some (.loading id))
    (only : ∀ r, .request r ∈ events → r.usesStore = false) (h : S.run env events = some T)
    (none_ : S.along env begins events = []) (rests : T.worker.AllRest) :
    ∃ readings, T.worker.desk [] = (S.worker.desk readings).process env id := by
  -- Only the consumer that has the queue may be at work, so all that comes is the work on this id.
  have first : S.worker.Follows env fun later => (S.worker.desk later).processAll env [id] := by
    refine ⟨fun j stage hj works later => ?_, fun rests => ?_⟩
    · obtain rfl := one i j _ stage at_ hj rfl (Worker.hasQueue_of_works works)
      cases at_.symm.trans hj
      rfl
    · cases rests _ (List.mem_of_getElem? at_)
  have follows := (follows_of_run loads saves one leaves first only h).atRest rests []
  rw [none_] at follows
  exact ⟨_, follows.symm⟩

theorem inFlight_of_allRest {find : τ → Uuid → Option Submission} (keeps : env.store.Keeps find)
    (h : (fresh service store clock).run env events = some S) (alive : S.Alive)
    (rests : S.worker.AllRest) : S.worker.inFlight = none := by
  refine Option.eq_none_iff_forall_not_mem.mpr fun id marked_ => ?_
  obtain ⟨stage, mem, subject⟩ | ⟨i, _, dead⟩ := (marked keeps h).inFlight_iff.mp marked_
  · have works := Stage.works_of_subject subject
    rw [rests stage mem] at works
    cases works
  · exact alive (List.mem_of_getElem? dead)

end System

section

variable {σ : Type} (env : WorkerEnv σ CountedStore) (loadError saveError : Nat → Option StoreError)

def Worker.Skips (w : Worker σ CountedStore) (id : Uuid) : Prop :=
  loadError w.store.loads ≠ none ∨ (∀ s, w.store.find? id = some s → s.status ≠ .pending) ∨
    saveError w.store.saves ≠ none

/-- What a worker is after the work on an id, by which of the calls on its store fail. -/
structure Worker.Leaves (w : Worker σ CountedStore) (id : Uuid) (w' : Worker σ CountedStore) :
    Prop where
  inFlight : w'.inFlight = none
  saves : ∃ n ≤ 4, w'.store.saves = w.store.saves + n
  others : ∀ other, other ≠ id → w'.store.find? other = w.store.find? other
  skipped : w.Skips loadError saveError id →
    w'.store.find? = w.store.find? ∧ w'.service = w.service
  scored : ¬w.Skips loadError saveError id → ∃ s running marked passed ended lost,
    w.store.find? id = some s ∧ s.status = .pending ∧ running = s.markRunning (env.date marked) ∧
      w'.service = (env.pass w.service passed running).2.2 ∧
      w'.store.find? id = some (running.leftBy
        (running.resultOf (env.date ended) (env.pass w.service passed running).1) (env.date lost)
        (saveError (w.store.saves + 1)) (saveError (w.store.saves + 2))
        (saveError (w.store.saves + 3)))

end

theorem Worker.leaves_of_desk {σ : Type} {env : WorkerEnv σ CountedStore}
    {loadError saveError : Nat → Option StoreError}
    (flaky : env.store = .flaky loadError saveError) {w w' : Worker σ CountedStore} {id : Uuid}
    {readings : List Nat} (inFlight : w'.inFlight = none)
    (desk : w'.desk [] = (w.desk readings).process env id) :
    w.Leaves env loadError saveError id w' := by
  by_cases skips : w.Skips loadError saveError id
  · obtain ⟨n, few, wrote⟩ := Desk.process_skips flaky (w.desk readings) id skips
    rw [← desk] at wrote
    exact ⟨inFlight, ⟨n, few, wrote.saves⟩, fun other _ => congrFun wrote.find other,
      fun _ => ⟨wrote.find, wrote.service⟩, fun scored => absurd skips scored⟩
  · have works := skips
    simp only [Skips, not_or, not_forall, not_not] at works
    obtain ⟨load, ⟨s, found, due⟩, save⟩ := works
    obtain ⟨marked, passed, ended, lost, scored, few, left⟩ :=
      Desk.process_scores flaky (w.desk readings) load found due save
    rw [← desk] at scored few left
    refine ⟨inFlight, few, fun other ne => ?_, fun skipped => absurd skipped skips, fun _ =>
      ⟨s, _, marked, passed, ended, lost, found, due, rfl, scored, ?_⟩⟩
    · exact (congrFun left other).trans (Function.update_of_ne ne _ _)
    · exact (congrFun left id).trans (Function.update_self _ _ _)

namespace System

variable {σ : Type} {env : WorkerEnv σ CountedStore} {S : System σ CountedStore} {service : σ}
  {store : CountedStore} {clock i : Nat} {before : List Event} {id : Uuid}
  {loadError saveError : Nat → Option StoreError}

/-- Whatever calls on the store fail, the work on an id that a consumer has taken comes to an end,
and leaves what it is to leave, if nobody else uses the store. -/
theorem cycle_leaves (flaky : env.store = .flaky loadError saveError)
    (h : (fresh service store clock).run env before = some S)
    (at_ : S.worker.consumers[i]? = some (.loading id)) (alone : S.LeavesStore) :
    (∃ after T, S.run env after = some T ∧ (∀ r, .request r ∉ after) ∧
      S.along env begins after = [] ∧ T.worker.AllRest) ∧
    ∀ after T, S.run env after = some T → (∀ r, .request r ∈ after → r.usesStore = false) →
      S.along env begins after = [] → T.worker.AllRest →
        S.worker.Leaves env loadError saveError id T.worker := by
  have loads : ∀ id st, (env.store.load id st).1 ≠ .error .breaks :=
    flaky ▸ StoreAccess.flaky_load_ne_breaks
  have saves : ∀ s st, (env.store.save s st).1 ≠ .error .breaks :=
    flaky ▸ StoreAccess.flaky_save_ne_breaks
  have keeps : env.store.Keeps CountedStore.find? := flaky ▸ StoreAccess.flaky_keeps
  refine ⟨?_, fun after T hT only none_ rests => ?_⟩
  · obtain ⟨after, T, hT, none_, unbegun, ends⟩ := exists_acknowledging loads saves at_ rfl
    have whole := run_append_eq_some.mpr ⟨S, h, hT⟩
    exact ⟨after, T, hT, none_, unbegun, (oneHasQueue whole).allRest ends rfl rfl⟩
  · have whole := run_append_eq_some.mpr ⟨S, h, hT⟩
    have alive := alive_of_unbroken loads saves whole
    obtain ⟨readings, desk⟩ :=
      desk_of_cycle loads saves (oneHasQueue h) alone at_ only hT none_ rests
    exact Worker.leaves_of_desk flaky (inFlight_of_allRest keeps whole alive rests) desk

def noError (_ : Nat) : Option StoreError := none

def twoErrors (n : Nat) : Option StoreError :=
  if n = 1 ∨ n = 2 then some (.unreachable "down") else none

def flakyEnv : WorkerEnv (List Submission) CountedStore where
  store := .flaky noError twoErrors
  pass scored _ s := (.assessed (.graded .passed 100 s.code), 5, scored ++ [s])
  date millis := ⟨⟨2024, 1, 1⟩, 0, 0, millis⟩
  patience := 10

def flakyStore : CountedStore :=
  { store := ⟨[.fresh ⟨1⟩ (flakyEnv.date 0) "sqli_001" "one" none,
      .fresh ⟨2⟩ (flakyEnv.date 0) "xss_001" "two" none]⟩ }

def flakyBefore : List Event :=
  Request.start.events 0 1 ++ (Request.enqueue ⟨1⟩).events 1 2 ++ List.replicate 2 (.consumer 0)

def flakyAfter : List Event :=
  List.replicate 2 (.consumer 0) ++ (Request.enqueue ⟨2⟩).events 2 2 ++ Request.stop.events 3 3 ++
    .wait 5 :: List.replicate 4 (.consumer 0)

theorem cycle_leaves_flaky :
    flakyEnv.store = .flaky noError twoErrors ∧
      ∃ S T, (fresh [] flakyStore 0).run flakyEnv flakyBefore = some S ∧
        S.worker.consumers[0]? = some (.loading ⟨1⟩) ∧ S.LeavesStore ∧
        S.run flakyEnv flakyAfter = some T ∧
        (∀ r, .request r ∈ flakyAfter → r.usesStore = false) ∧
        S.along flakyEnv begins flakyAfter = [] ∧ T.worker.AllRest ∧ T.worker.service.length = 1 ∧
        (T.worker.store.find? ⟨1⟩).bind (·.feedback) =
          some "Scoring failure: failed to store result: Redis error: down" ∧
        S.worker.Leaves flakyEnv noError twoErrors ⟨1⟩ T.worker := by
  have only : ∀ r, .request r ∈ flakyAfter → r.usesStore = false := by
    intro r hr
    simp [flakyAfter, Request.events] at hr
    rcases hr with rfl | rfl <;> rfl
  have only' : ∀ r, .request r ∈ flakyBefore → r.usesStore = false := by
    intro r hr
    simp [flakyBefore, Request.events] at hr
    rcases hr with rfl | rfl <;> rfl
  have goes : ((fresh [] flakyStore 0).run flakyEnv flakyBefore).any (fun S =>
      decide (S.worker.consumers[0]? = some (.loading ⟨1⟩)) &&
      decide (S.along flakyEnv begins flakyAfter = []) &&
        (S.run flakyEnv flakyAfter).any fun T => T.worker.consumers.all (!·.works) &&
          decide (T.worker.service.length = 1) &&
          decide ((T.worker.store.find? ⟨1⟩).bind (·.feedback) =
            some "Scoring failure: failed to store result: Redis error: down")) = true := by
    decide +kernel
  obtain ⟨S, hS, goes⟩ := (Option.any_eq_true _ _).mp goes
  simp only [Bool.and_eq_true, decide_eq_true_eq, Option.any_eq_true] at goes
  obtain ⟨⟨at_, unbegun⟩, T, hT, ⟨rests, once⟩, blames⟩ := goes
  have rests : T.worker.AllRest := by simpa [Worker.AllRest] using rests
  have alone := leavesStore only' hS
  exact ⟨rfl, S, T, hS, at_, alone, hT, only, unbegun, rests, once, blames,
    (cycle_leaves rfl hS at_ alone).2 flakyAfter T hT only unbegun rests⟩

end System

end FixGrader
