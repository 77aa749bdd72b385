import FixGrader.Proofs.Worker.Mutex
import Mathlib.Logic.Function.Basic

namespace FixGrader

/-- `find` looks up what a store holds. A call that goes wrong leaves that alone. -/
structure StoreAccess.Keeps {τ : Type} (access : StoreAccess τ)
    (find : τ → Uuid → Option Submission) : Prop where
  named : ∀ st id s, find st id = some s → s.id = id
  load : ∀ id st, find (access.load id st).2 = find st
  loaded : ∀ id st s, (access.load id st).1 = .ok s → s = find st id
  saved : ∀ s st, (access.save s st).1 = .ok () →
    find (access.save s st).2 = Function.update (find st) s.id (some s)
  unsaved : ∀ s st f, (access.save s st).1 = .error f → find (access.save s st).2 = find st

def CountedStore.find? (c : CountedStore) (id : Uuid) : Option Submission := c.store.find? id

theorem StoreAccess.inMemory_keeps (loadFault saveFault : Nat → Option CallFault) :
    (inMemory loadFault saveFault).Keeps CountedStore.find? where
  named st id s h := by simpa using List.find?_some h
  load id st := by
    simp only [inMemory]
    split <;> rfl
  loaded id st s h := by
    simp only [inMemory] at h
    split at h <;> cases h
    rfl
  saved s st h := by
    simp only [inMemory] at h ⊢
    split at h
    · cases h
    · funext id
      by_cases hid : id = s.id
      · subst hid
        simp [CountedStore.find?, Store.find?_save_self, *]
      · simp [CountedStore.find?, Store.find?_save_of_ne, Function.update_of_ne, *]
  unsaved s st f h := by
    simp only [inMemory] at h ⊢
    split at h
    · simp only [*]
      rfl
    · cases h

theorem WorkerEnv.ofOutcome_keeps (loadFault saveFault : Nat → Option CallFault)
    (outcome : String → String → PassOutcome) :
    (ofOutcome loadFault saveFault outcome).store.Keeps CountedStore.find? :=
  StoreAccess.inMemory_keeps loadFault saveFault

def Stage.copy? : Stage → Option Submission
  | marking s | scoring s _ _ | storing s | retrying s | givingUp s => some s
  | _ => none

/-- What a call goes on with behind the ids that it is about to enqueue. -/
def Call.core : Call → Call
  | enqueue _ next | send _ next => next.core
  | c => c

def Call.copy? (c : Call) : Option Submission :=
  match c.core with
  | submit s | examine _ s _ | restore _ s => some s
  | _ => none

/-- Whether a task is still about what was asked for. What is to be restored is pending, and has the
code that was asked for, if code was. -/
def Task.Fits (t : Task) : Prop :=
  match t.call.core with
  | .submit s => t.request = .submit s
  | .rescore id code => t.request = .rescore id code
  | .examine id s code => s.id = id ∧ t.request = .rescore id code
  | .restore id s => s.id = id ∧ ∃ code, t.request = .rescore id code ∧ s.status = .pending ∧
      s.code = code.getD s.code
  | _ => True

/-- The record that the next step of a call tries to save. -/
def Call.saving? : Call → Option Submission
  | submit s | restore _ s => some s
  | _ => none

theorem Call.ended_of_core_fault {f : CallFault} {c : Call} (h : (Call.fault f).core = c) :
    ∃ result, c = .over result := by
  cases f <;> exact ⟨_, h.symm⟩

theorem Stage.copy?_of_saving {stage : Stage} {s : Submission} (h : stage.saving? = some s) :
    stage.copy? = some s := by
  cases stage <;> first | exact h | cases h

theorem Call.core_of_saving {c : Call} {s : Submission} (h : c.saving? = some s) :
    c.core = .submit s ∨ ∃ id, c.core = .restore id s := by
  cases c <;> cases h
  · exact .inl rfl
  · exact .inr ⟨_, rfl⟩

theorem Task.Fits.copy_id {t : Task} (h : t.Fits) {id : Uuid} {code : Option String}
    (request : t.request = .rescore id code) {s : Submission} (copy : t.call.copy? = some s) :
    s.id = id := by
  unfold Fits at h
  unfold Call.copy? at copy
  split at h <;> simp_all

theorem Stage.hasQueue_of_copy {stage : Stage} {s : Submission} (h : stage.copy? = some s) :
    stage.hasQueue = true := by
  cases stage <;> first | rfl | cases h

namespace Worker

variable {σ τ : Type} {env : WorkerEnv σ τ} {w w' : Worker σ τ} {i : Nat} {c c' : Call}
  {find : τ → Uuid → Option Submission}

@[simp] theorem concluded_id (date : Instant) (s : Submission) (outcome : PassOutcome) :
    (concluded date s outcome).id = s.id := by
  unfold concluded
  split
  · split <;> rfl
  · rfl

@[simp] theorem concluded_code (date : Instant) (s : Submission) (outcome : PassOutcome) :
    (concluded date s outcome).code = s.code := by
  unfold concluded
  split
  · split <;> rfl
  · rfl

theorem find_of_load (keeps : env.store.Keeps find) {id : Uuid} {store store' : τ}
    {loaded : Except CallFault (Option Submission)}
    (h : env.store.load id store = (loaded, store')) : find store' = find store := by
  have := keeps.load id store
  rwa [h] at this

theorem eq_of_load (keeps : env.store.Keeps find) {id : Uuid} {store store' : τ}
    {s : Option Submission} (h : env.store.load id store = (.ok s, store')) :
    find store id = s :=
  (keeps.loaded id store s (by rw [h])).symm

theorem found_of_load (keeps : env.store.Keeps find) {id : Uuid} {store store' : τ}
    {s : Submission} (h : env.store.load id store = (.ok (some s), store')) :
    find store s.id = some s := by
  have hs := eq_of_load keeps h
  rwa [keeps.named _ _ _ hs]

theorem find_of_save (keeps : env.store.Keeps find) {s : Submission} {store store' : τ}
    (h : env.store.save s store = (.ok (), store')) :
    find store' = Function.update (find store) s.id (some s) := by
  have := keeps.saved s store (by rw [h])
  rwa [h] at this

theorem find_of_fault (keeps : env.store.Keeps find) {s : Submission} {f : CallFault}
    {store store' : τ} (h : env.store.save s store = (.error f, store')) :
    find store' = find store := by
  have := keeps.unsaved s store f (by rw [h])
  rwa [h] at this

/-- A consumer changes what is stored only by a save of the record that it has in hand. -/
theorem Turn.find_cases (keeps : env.store.Keeps find) (h : Turn env w i w') :
    find w'.store = find w.store ∨
      ∃ s, (w.consumers[i]?).bind Stage.saving? = some s ∧
        find w'.store = Function.update (find w.store) s.id (some s) := by
  cases h with
  | letIn | halt | begin | conclude | acknowledge => exact .inl rfl
  | loadBreaks _ load | loadFails _ load | missing _ load | skip _ load | take _ load =>
    exact .inl (find_of_load keeps load)
  | saveBreaks _ _ save | markFails _ save | storeFails _ save | retryFails _ save
  | giveUpFails _ save => exact .inl (find_of_fault keeps save)
  | pass at_ save => exact .inr ⟨_, by rw [at_]; rfl, find_of_save keeps save⟩
  | stored at_ saving _ save => exact .inr ⟨_, by rw [at_]; exact saving, find_of_save keeps save⟩

theorem CallTurn.find_cases (keeps : env.store.Keeps find) (h : CallTurn env w c w' c') :
    find w'.store = find w.store ∨
      ∃ s, c.saving? = some s ∧ find w'.store = Function.update (find w.store) s.id (some s) := by
  cases h with
  | start =>
    unfold Worker.start
    split <;> exact .inl rfl
  | submitted save | restored save => exact .inr ⟨_, rfl, find_of_save keeps save⟩
  | submitFault save | restoreFault save => exact .inl (find_of_fault keeps save)
  | found load | notFound load | loadFault load => exact .inl (find_of_load keeps load)
  | _ => exact .inl rfl

theorem CallTurn.core_submit (h : CallTurn env w c w' c') {s : Submission}
    (core : c'.core = .submit s) : c.core = .submit s ∧ c.saving? = none := by
  cases h with
  | count | send => exact ⟨core, rfl⟩
  | submitFault | loadFault | restoreFault =>
    obtain ⟨_, ended⟩ := Call.ended_of_core_fault core
    cases ended
  | _ => cases core

theorem CallTurn.core_examine (keeps : env.store.Keeps find) (h : CallTurn env w c w' c')
    {id : Uuid} {s : Submission} {code : Option String} (core : c'.core = .examine id s code) :
    c.core = .examine id s code ∨ c = .rescore id code ∧ find w.store id = some s := by
  cases h with
  | count | send => exact .inl core
  | found load =>
    cases core
    exact .inr ⟨rfl, eq_of_load keeps load⟩
  | submitFault | loadFault | restoreFault =>
    obtain ⟨_, ended⟩ := Call.ended_of_core_fault core
    cases ended
  | _ => cases core

theorem CallTurn.core_restore (h : CallTurn env w c w' c') {id : Uuid} {s : Submission}
    (core : c'.core = .restore id s) :
    c.core = .restore id s ∨
      ∃ r code, c = .examine id r code ∧ s = r.reset (env.date w.clock) code := by
  cases h with
  | count | send => exact .inl core
  | permit =>
    cases core
    exact .inr ⟨_, _, rfl, rfl⟩
  | submitFault | loadFault | restoreFault =>
    obtain ⟨_, ended⟩ := Call.ended_of_core_fault core
    cases ended
  | _ => cases core

/-- What a call has in hand after its step it had before, or it has loaded or reset it. -/
theorem CallTurn.copy_cases (keeps : env.store.Keeps find) (h : CallTurn env w c w' c')
    {s : Submission} (copy : c'.copy? = some s) :
    c.copy? = some s ∨ find w.store s.id = some s ∨
      ∃ id r date code, c = .examine id r code ∧ s = r.reset date code := by
  have before : ∀ {d : Call}, c.core = d → c'.core = d → c.copy? = some s := by
    intro d hc hc'
    rwa [Call.copy?, hc, ← hc', ← Call.copy?]
  cases core : c'.core with
  | submit r => exact .inl (before (h.core_submit core).1 core)
  | examine id r code =>
    obtain same | ⟨_, found⟩ := h.core_examine keeps core
    · exact .inl (before same core)
    · simp only [Call.copy?, core, Option.some.injEq] at copy
      subst copy
      exact .inr (.inl (by rwa [keeps.named _ _ _ found]))
  | restore id r =>
    obtain same | ⟨r', code, rfl, rfl⟩ := h.core_restore core
    · exact .inl (before same core)
    · simp only [Call.copy?, core, Option.some.injEq] at copy
      exact .inr (.inr ⟨id, r', _, code, rfl, copy.symm⟩)
  | _ => simp [Call.copy?, core] at copy

/-- What a consumer has in hand after its step it had before, or it comes from a record that it has
just loaded, or from the outcome of its pass, or from a save that failed. -/
theorem Turn.copy_cases (keeps : env.store.Keeps find) (h : Turn env w i w') {stage : Stage}
    {s : Submission} (at_ : w'.consumers[i]? = some stage) (copy : stage.copy? = some s) :
    (∃ r date, find w.store r.id = some r ∧ r.status = .pending ∧ s = r.markRunning date) ∨
      (∃ old, w.consumers[i]? = some old ∧ old.copy? = some s) ∨
      (∃ r outcome due date, w.consumers[i]? = some (.scoring r outcome due) ∧
        s = concluded date r outcome) ∨
      ∃ r e store, w.consumers[i]? = some (.retrying r) ∧
        env.store.save r w.store = (.error (.fails e), store) ∧ s = w.couldNotStore env r e := by
  cases h with
  | letIn | halt | begin | loadBreaks | loadFails | missing | skip | saveBreaks | markFails | stored
  | giveUpFails | acknowledge =>
    cases stage_of_enter at_
    cases copy
  | take _ load due =>
    cases stage_of_enter at_
    cases copy
    exact .inl ⟨_, _, found_of_load keeps load, due, rfl⟩
  | pass before | storeFails before =>
    cases stage_of_enter at_
    cases copy
    exact .inr (.inl ⟨_, before, rfl⟩)
  | conclude before =>
    cases stage_of_enter at_
    cases copy
    exact .inr (.inr (.inl ⟨_, _, _, _, before, rfl⟩))
  | retryFails before save =>
    cases stage_of_enter at_
    cases copy
    exact .inr (.inr (.inr ⟨_, _, _, before, save, rfl⟩))

theorem CallTurn.fits (keeps : env.store.Keeps find) {r : Request} (h : CallTurn env w c w' c')
    (fits : Task.Fits ⟨r, c⟩) : Task.Fits ⟨r, c'⟩ := by
  cases h with
  | count | send => exact fits
  | found load =>
    exact ⟨keeps.named _ _ _ (eq_of_load keeps load), fits⟩
  | permit =>
    refine ⟨fits.1, _, fits.2, rfl, ?_⟩
    rename_i code _
    cases code <;> rfl
  | submitFault | loadFault | restoreFault =>
    rename_i f _ _
    cases f <;> trivial
  | _ => trivial

end Worker

namespace System

variable {σ τ : Type} {env : WorkerEnv σ τ} {S T : System σ τ} {e : Event}
  {find : τ → Uuid → Option Submission}

def saving? (S : System σ τ) : Event → Option Submission
  | .call k => (S.tasks[k]?).bind fun t => t.call.saving?
  | .consumer i => (S.worker.consumers[i]?).bind Stage.saving?
  | _ => none

theorem Happens.find_cases (keeps : env.store.Keeps find) (h : Happens env S e T) :
    find T.worker.store = find S.worker.store ∨
      ∃ s, S.saving? e = some s ∧
        find T.worker.store = Function.update (find S.worker.store) s.id (some s) := by
  cases h with
  | request | giveUp | wait | shutdown => exact .inl rfl
  | call at_ turn => exact (turn.find_cases keeps).imp_right fun ⟨s, hs, hf⟩ =>
      ⟨s, by simpa [saving?, at_] using hs, hf⟩
  | consumer turn => exact turn.find_cases keeps

theorem Happens.find_isSome (keeps : env.store.Keeps find) (h : Happens env S e T) {id : Uuid}
    (known : (find S.worker.store id).isSome) : (find T.worker.store id).isSome := by
  rcases h.find_cases keeps with hf | ⟨s, _, hf⟩ <;> rw [hf]
  · exact known
  · by_cases hid : id = s.id
    · simp [hid]
    · rwa [Function.update_of_ne hid]

theorem Happens.fits (keeps : env.store.Keeps find) (h : Happens env S e T)
    (fits : ∀ t ∈ S.tasks, t.Fits) : ∀ t ∈ T.tasks, t.Fits := by
  intro u hu
  obtain ⟨k, at_⟩ := List.getElem?_of_mem hu
  obtain ⟨_, before⟩ | ⟨r, rfl, _, rfl⟩ | ⟨⟨r, c⟩, rfl, before, same, turn⟩ | ended :=
    h.task_cases at_
  · exact fits u (List.mem_of_getElem? before)
  · cases r <;> first | rfl | trivial
  · obtain ⟨r', c'⟩ := u
    cases same
    exact turn.fits keeps (fits _ (List.mem_of_getElem? before))
  · simp [Task.Fits, ended, Call.core]

theorem fits (keeps : env.store.Keeps find) {service : σ} {store : τ} {clock : Nat}
    {events : List Event} (h : (fresh service store clock).run env events = some S) :
    ∀ t ∈ S.tasks, t.Fits := by
  refine run_induction (motive := fun _ S => ∀ t ∈ S.tasks, t.Fits) ?_ ?_ h
  · intro t ht
    simp [fresh] at ht
  · intro _ R e T _ ih hT
    exact (happens_of_step hT).fits keeps ih

end System

end FixGrader
