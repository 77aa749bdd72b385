import FixGrader.Proofs.Worker.Mutex

namespace FixGrader

/-- All that work on an id reads and writes. Each step of the work takes a reading of the clock. -/
structure Desk (σ τ : Type) where
  service : σ
  store : τ
  readings : List Nat

namespace Desk

variable {σ τ : Type}

variable (env : WorkerEnv σ τ) (d : Desk σ τ)

def now : Nat := d.readings.headD 0

def load (id : Uuid) : Except CallFault (Option Submission) × Desk σ τ :=
  let (loaded, store) := env.store.load id d.store
  (loaded, { d with store, readings := d.readings.tail })

def save (s : Submission) : Except CallFault Unit × Desk σ τ :=
  let (saved, store) := env.store.save s d.store
  (saved, { d with store, readings := d.readings.tail })

def giveUp (s : Submission) : Desk σ τ := (d.save env s).2

def retry (s : Submission) : Desk σ τ :=
  match d.save env s with
  | (.error (.fails e), d') =>
    d'.giveUp env (s.markError (env.date d.now) s!"failed to store result: {e.message}")
  | (_, d') => d'

def persist (s : Submission) : Desk σ τ :=
  match d.save env s with
  | (.error (.fails _), d') => d'.retry env s
  | (_, d') => d'

def conclude (s : Submission) (outcome : PassOutcome) : Desk σ τ :=
  { d with readings := d.readings.tail }.persist env
    (Worker.concluded (env.date d.now) s outcome)

def mark (s : Submission) : Desk σ τ :=
  match d.save env s with
  | (.ok (), d') =>
    let (outcome, _, service) := env.pass d'.service d.now s
    { d' with service }.conclude env s outcome
  | (_, d') => d'

/-- The work on one id from loading its record to saving the outcome of its pass. -/
def process (id : Uuid) : Desk σ τ :=
  match d.load env id with
  | (.ok (some s), d') =>
    if s.status.canBecome .running then d'.mark env (s.markRunning (env.date d.now)) else d'
  | (_, d') => d'

def processAll (ids : List Uuid) : Desk σ τ := ids.foldl (process env) d

def resume : Stage → Desk σ τ
  | .loading id => d.process env id
  | .marking s => d.mark env s
  | .scoring s outcome _ => d.conclude env s outcome
  | .storing s => d.persist env s
  | .retrying s => d.retry env s
  | .givingUp s => d.giveUp env s
  | _ => d

theorem processAll_concat (ids : List Uuid) (id : Uuid) :
    d.processAll env (ids ++ [id]) = (d.processAll env ids).process env id := by
  simp [processAll]

variable {env d}

theorem mark_eq {d' : Desk σ τ} {s : Submission} {outcome : PassOutcome} {millis : Nat}
    {service : σ} (saved : d.save env s = (.ok (), d'))
    (ends : env.pass d'.service d.now s = (outcome, millis, service)) :
    d.mark env s = { d' with service }.conclude env s outcome := by
  obtain rfl : (env.pass d'.service d.now s).1 = outcome := by rw [ends]
  obtain rfl : (env.pass d'.service d.now s).2.2 = service := by rw [ends]
  simp only [mark, saved]

end Desk

/-- Whether a consumer at this stage is at work on an id. -/
def Stage.works : Stage → Bool
  | loading _ | marking _ | scoring .. | storing _ | retrying _ | givingUp _ => true
  | _ => false

def Message.id? : Message → Option Uuid
  | score id => some id
  | stop => none

def Call.usesStore : Call → Bool
  | enqueue _ next | send _ next => next.usesStore
  | submit _ | rescore .. | examine .. | restore .. => true
  | _ => false

def Request.usesStore (r : Request) : Bool := r.call.usesStore

def Call.sends : Call → List Uuid
  | send id _ => [id]
  | _ => []

namespace Worker

variable {σ τ : Type} {env : WorkerEnv σ τ} {w w' : Worker σ τ} {i : Nat} {c c' : Call}

/-- The id that consumer `i` begins to work on in its next step. -/
def begins (w : Worker σ τ) (i : Nat) : List Uuid :=
  match w.consumers[i]?, w.queue with
  | some .receiving, .score id :: _ => [id]
  | _, _ => []

/-- The reading that the next step of consumer `i` takes, if that is a step at work. -/
def reads (w : Worker σ τ) (i : Nat) : List Nat :=
  if (w.consumers[i]?).any Stage.works then [w.clock] else []

def queued (w : Worker σ τ) : List Uuid := w.queue.filterMap Message.id?

def AllRest (w : Worker σ τ) : Prop := ∀ stage ∈ w.consumers, stage.works = false

/-- No id is in the queue, and no consumer is at work on one. -/
def Idle (w : Worker σ τ) : Prop := w.queued = [] ∧ w.AllRest

def desk (w : Worker σ τ) (readings : List Nat) : Desk σ τ := ⟨w.service, w.store, readings⟩

@[simp] theorem desk_now (time : Nat) (later : List Nat) :
    (w.desk (time :: later)).now = time := rfl

@[simp] theorem desk_enter (i : Nat) (stage : Stage) (readings : List Nat) :
    (w.enter i stage).desk readings = w.desk readings := rfl

@[simp] theorem desk_release (i : Nat) (readings : List Nat) :
    (w.release i).desk readings = w.desk readings := rfl

theorem desk_load {id : Uuid} {loaded : Except CallFault (Option Submission)} {store : τ}
    (h : env.store.load id w.store = (loaded, store)) (time : Nat) (later : List Nat) :
    (w.desk (time :: later)).load env id = (loaded, { w with store }.desk later) := by
  simp [Desk.load, desk, h]

theorem desk_save {s : Submission} {saved : Except CallFault Unit} {store : τ}
    (h : env.store.save s w.store = (saved, store)) (time : Nat) (later : List Nat) :
    (w.desk (time :: later)).save env s = (saved, { w with store }.desk later) := by
  simp [Desk.save, desk, h]

theorem works_of_saving {stage : Stage} {s : Submission} (h : stage.saving? = some s) :
    stage.works = true := by
  cases stage <;> first | rfl | cases h

theorem hasQueue_of_works {stage : Stage} (h : stage.works = true) : stage.hasQueue = true := by
  cases stage <;> first | rfl | cases h

theorem begins_eq_nil {stage : Stage} (at_ : w.consumers[i]? = some stage)
    (h : stage ≠ .receiving) : w.begins i = [] := by
  unfold begins
  rw [at_]
  split
  · rename_i hs _
    cases hs
    exact absurd rfl h
  · rfl

theorem reads_of_works {stage : Stage} (at_ : w.consumers[i]? = some stage)
    (h : stage.works = true) : w.reads i = [w.clock] := by
  simp [reads, at_, h]

theorem reads_of_rests {stage : Stage} (at_ : w.consumers[i]? = some stage)
    (h : stage.works = false) : w.reads i = [] := by
  simp [reads, at_, h]

theorem Turn.queued (h : Turn env w i w') : w.queued = w.begins i ++ w'.queued := by
  cases h with
  | halt at_ head | begin at_ head =>
    simp [Worker.queued, begins, enter, at_, head, Message.id?, List.filterMap_cons]
  | saveBreaks at_ saving | stored at_ saving =>
    rw [begins_eq_nil at_ (by rintro rfl; cases saving)]
    rfl
  | letIn at_ | loadBreaks at_ | loadFails at_ | missing at_ | skip at_ | take at_
  | markFails at_ | pass at_ | conclude at_ | storeFails at_ | retryFails at_ | giveUpFails at_
  | acknowledge at_ =>
    rw [begins_eq_nil at_ nofun]
    rfl

theorem CallTurn.queued (h : CallTurn env w c w' c') : w'.queued = w.queued ++ c.sends := by
  cases h with
  | start =>
    unfold Worker.start
    split <;> simp [Worker.queued, Call.sends]
  | sendStop | send => simp [Worker.queued, Call.sends, Message.id?]
  | _ => simp [Worker.queued, Call.sends]

theorem CallTurn.keeps_desk (h : CallTurn env w c w' c') (uses : c.usesStore = false) :
    w'.service = w.service ∧ w'.store = w.store ∧ c'.usesStore = false := by
  cases h with
  | start => unfold Worker.start; split <;> exact ⟨rfl, rfl, rfl⟩
  | count | send => exact ⟨rfl, rfl, uses⟩
  | submitted | submitFault | found | notFound | loadFault | refuse | permit | restored
  | restoreFault => cases uses
  | _ => exact ⟨rfl, rfl, rfl⟩

/-- A consumer that rests goes on resting, or it begins to work on the first id of the queue. -/
theorem Turn.of_rest (h : Turn env w i w') {old : Stage} (at_ : w.consumers[i]? = some old)
    (rests : old.works = false) :
    (w'.service = w.service ∧ w'.store = w.store) ∧
      ((∃ new, w'.consumers = w.consumers.set i new ∧ new.works = false) ∧ w.begins i = [] ∨
        old.hasQueue = true ∧
          ∃ id, w'.consumers = w.consumers.set i (.loading id) ∧ w.begins i = [id]) := by
  cases h with
  | letIn at_' | acknowledge at_' =>
    exact ⟨⟨rfl, rfl⟩, .inl ⟨⟨_, rfl, rfl⟩, begins_eq_nil at_' nofun⟩⟩
  | halt at_' head => exact ⟨⟨rfl, rfl⟩, .inl ⟨⟨_, rfl, rfl⟩, by simp [begins, at_', head]⟩⟩
  | begin at_' head =>
    cases at_.symm.trans at_'
    exact ⟨⟨rfl, rfl⟩, .inr ⟨rfl, _, rfl, by simp [begins, at_', head]⟩⟩
  | saveBreaks at_' saving | stored at_' saving =>
    cases at_.symm.trans at_'
    simp [works_of_saving saving] at rests
  | loadBreaks at_' | loadFails at_' | missing at_' | skip at_' | take at_' | markFails at_'
  | pass at_' | conclude at_' | storeFails at_' | retryFails at_' | giveUpFails at_' =>
    cases at_.symm.trans at_'
    cases rests

/-- A consumer's step at work is the next step of what is left to do for it. -/
theorem Turn.resume (h : Turn env w i w') {old new : Stage} (at_ : w.consumers[i]? = some old)
    (now : w'.consumers[i]? = some new) (works : old.works = true)
    (loads : ∀ id st, (env.store.load id st).1 ≠ .error .breaks)
    (saves : ∀ s st, (env.store.save s st).1 ≠ .error .breaks) (later : List Nat) :
    (w.desk (w.clock :: later)).resume env old = (w'.desk later).resume env new := by
  cases h with
  | loadBreaks at_' load => exact absurd (congrArg Prod.fst load) (loads _ _)
  | saveBreaks at_' saving save => exact absurd (congrArg Prod.fst save) (saves _ _)
  | loadFails at_' load | missing at_' load =>
    cases at_.symm.trans at_'
    cases stage_of_enter now
    simp [Desk.resume, Desk.process, desk_load load]
  | skip at_' load other =>
    cases at_.symm.trans at_'
    cases stage_of_enter now
    simp [Desk.resume, Desk.process, desk_load load, mt Status.canBecome_running_iff.mp other]
  | take at_' load due =>
    cases at_.symm.trans at_'
    cases stage_of_enter now
    simp [Desk.resume, Desk.process, desk_load load, Status.canBecome_running_iff.mpr due]
  | markFails at_' save =>
    cases at_.symm.trans at_'
    cases stage_of_enter now
    simp [Desk.resume, Desk.mark, desk_save save]
  | pass at_' save ends =>
    cases at_.symm.trans at_'
    cases stage_of_enter now
    exact Desk.mark_eq (desk_save save _ _) ends
  | conclude at_' =>
    cases at_.symm.trans at_'
    cases stage_of_enter now
    rfl
  | stored at_' saving unmarked save =>
    cases at_.symm.trans at_'
    cases stage_of_enter now
    cases old with
    | marking => cases saving; exact absurd rfl unmarked
    | storing | retrying | givingUp =>
      cases saving
      simp [Desk.resume, Desk.persist, Desk.retry, Desk.giveUp, desk_save save]
    | _ => cases saving
  | storeFails at_' save =>
    cases at_.symm.trans at_'
    cases stage_of_enter now
    simp [Desk.resume, Desk.persist, desk_save save]
  | retryFails at_' save =>
    cases at_.symm.trans at_'
    cases stage_of_enter now
    simp [Desk.resume, Desk.retry, desk_save save, couldNotStore]
  | giveUpFails at_' save =>
    cases at_.symm.trans at_'
    cases stage_of_enter now
    simp [Desk.resume, Desk.giveUp, desk_save save]
  | letIn at_' | halt at_' | begin at_' | acknowledge at_' =>
    cases at_.symm.trans at_'
    cases works

/-- `desk` is what work alone has come to, up to what is left of the work that is going on. It gets
the readings still to come, so that nothing needs to be said about readings not yet taken. -/
structure Follows (env : WorkerEnv σ τ) (desk : List Nat → Desk σ τ) (w : Worker σ τ) : Prop where
  atWork : ∀ (i : Nat) (stage : Stage), w.consumers[i]? = some stage → stage.works = true →
    ∀ later, desk later = (w.desk later).resume env stage
  atRest : w.AllRest → ∀ later, desk later = w.desk later

theorem Follows.congr {desk : List Nat → Desk σ τ} (h : w.Follows env desk)
    (service : w'.service = w.service) (store : w'.store = w.store)
    (works : ∀ (i : Nat) (stage : Stage), w'.consumers[i]? = some stage → stage.works = true →
      w.consumers[i]? = some stage)
    (rests : w'.AllRest → w.AllRest) : w'.Follows env desk := by
  have same : ∀ later, w'.desk later = w.desk later := by simp [Worker.desk, service, store]
  refine ⟨fun i stage at_ hs later => ?_, fun hr later => ?_⟩
  · rw [same]
    exact h.atWork i stage (works i stage at_ hs) hs later
  · rw [same]
    exact h.atRest (rests hr) later

theorem resume_of_rests {stage : Stage} (h : stage.works = false) (d : Desk σ τ) :
    d.resume env stage = d := by
  cases stage <;> first | rfl | cases h

theorem allRest_of_set {l : List Stage} {new : Stage}
    (h : ∀ stage ∈ l.set i new, stage.works = false) {old : Stage} (at_ : l[i]? = some old)
    (rests : old.works = false) : ∀ stage ∈ l, stage.works = false := by
  intro stage hs
  obtain ⟨j, hj⟩ := List.getElem?_of_mem hs
  by_cases hij : i = j
  · subst hij
    cases at_.symm.trans hj
    exact rests
  · exact h stage (List.mem_of_getElem? ((List.getElem?_set_ne hij).trans hj))

theorem OneHasQueue.allRest (one : w.OneHasQueue) {old : Stage} (at_ : w.consumers[i]? = some old)
    (has : old.hasQueue = true) (rests : old.works = false) : w.AllRest := by
  intro stage hs
  obtain ⟨j, hj⟩ := List.getElem?_of_mem hs
  by_contra hw
  rw [Bool.not_eq_false] at hw
  obtain rfl := one i j old stage at_ hj has (hasQueue_of_works hw)
  cases at_.symm.trans hj
  simp [rests] at hw

theorem OneHasQueue.allRest_of_begins (one : w.OneHasQueue) (h : w.begins i ≠ []) :
    w.AllRest := by
  unfold begins at h
  split at h
  · rename_i at_ _
    exact one.allRest at_ rfl rfl
  · exact absurd rfl h

theorem Turn.follows_at_work (h : Turn env w i w') (one : w.OneHasQueue) {old : Stage}
    (at_ : w.consumers[i]? = some old) (works : old.works = true)
    (loads : ∀ id st, (env.store.load id st).1 ≠ .error .breaks)
    (saves : ∀ s st, (env.store.save s st).1 ≠ .error .breaks) {desk : List Nat → Desk σ τ}
    (f : w.Follows env desk) : w'.Follows env fun later => desk (w.clock :: later) := by
  obtain ⟨_, new, at_', set, _⟩ := h.consumers
  cases at_.symm.trans at_'
  have now : w'.consumers[i]? = some new := stage_of_set at_ set
  have step : ∀ later, desk (w.clock :: later) = (w'.desk later).resume env new := by
    intro later
    rw [f.atWork i old at_ works]
    exact h.resume at_ now works loads saves later
  refine ⟨fun j stage hj hs later => ?_, fun hr later => ?_⟩
  · rw [set] at hj
    obtain ⟨rfl, rfl⟩ | ⟨hij, hj⟩ := getElem?_set_cases hj
    · exact step later
    · exact absurd (one i j old stage at_ hj (hasQueue_of_works works) (hasQueue_of_works hs)) hij
  · rw [step, resume_of_rests (hr new (List.mem_of_getElem? now))]

/-- A resting consumer's step changes nothing for `desk`, or gives it the next id to work on. -/
theorem Turn.follows_at_rest (h : Turn env w i w') (one : w.OneHasQueue) {old : Stage}
    (at_ : w.consumers[i]? = some old) (rests : old.works = false)
    {start : List Nat → Desk σ τ} {begun : List Uuid}
    (f : w.Follows env fun later => (start later).processAll env begun) :
    w'.Follows env fun later => (start later).processAll env (begun ++ w.begins i) := by
  obtain ⟨⟨service, store⟩, ⟨⟨new, set, rests'⟩, none_⟩ | ⟨has, id, set, some_⟩⟩ :=
    h.of_rest at_ rests
  · rw [none_, List.append_nil]
    refine f.congr service store (fun j stage hj hs => ?_) fun hr => ?_
    · rw [set] at hj
      obtain ⟨_, rfl⟩ | ⟨_, hj⟩ := getElem?_set_cases hj
      · simp [rests'] at hs
      · exact hj
    · exact allRest_of_set (by rwa [AllRest, set] at hr) at_ rests
  · have allRest := one.allRest at_ has rests
    have now : w'.consumers[i]? = some (.loading id) := stage_of_set at_ set
    rw [some_]
    refine ⟨fun j stage hj hs later => ?_, fun hr => ?_⟩
    · rw [set] at hj
      obtain ⟨rfl, rfl⟩ | ⟨_, hj⟩ := getElem?_set_cases hj
      · rw [Desk.processAll_concat, f.atRest allRest]
        simp [Desk.resume, desk, service, store]
      · simp [allRest stage (List.mem_of_getElem? hj)] at hs
    · cases hr _ (List.mem_of_getElem? now)

theorem Turn.follows (h : Turn env w i w') (one : w.OneHasQueue)
    (loads : ∀ id st, (env.store.load id st).1 ≠ .error .breaks)
    (saves : ∀ s st, (env.store.save s st).1 ≠ .error .breaks)
    {start : List Nat → Desk σ τ} {begun : List Uuid}
    (f : w.Follows env fun later => (start later).processAll env begun) :
    w'.Follows env fun later =>
      (start (w.reads i ++ later)).processAll env (begun ++ w.begins i) := by
  obtain ⟨old, _, at_, _⟩ := h.consumers
  cases works : old.works with
  | true =>
    rw [begins_eq_nil at_ (by rintro rfl; cases works), reads_of_works at_ works, List.append_nil]
    exact h.follows_at_work one at_ works loads saves f
  | false =>
    rw [reads_of_rests at_ works]
    exact h.follows_at_rest one at_ works f

theorem CallTurn.follows (h : CallTurn env w c w' c') (uses : c.usesStore = false)
    {desk : List Nat → Desk σ τ} (f : w.Follows env desk) : w'.Follows env desk := by
  obtain ⟨service, store, _⟩ := h.keeps_desk uses
  obtain hc | hc := h.consumers
  · exact f.congr service store (fun j stage hj _ => hc ▸ hj) fun hr => by rwa [AllRest, hc] at hr
  · refine f.congr service store (fun j stage hj hs => ?_) fun hr stage hs => ?_
    · rw [hc] at hj
      obtain hj | ⟨_, rfl⟩ := getElem?_concat_cases hj
      · exact hj
      · cases hs
    · exact hr stage (by simp [hc, hs])

end Worker

namespace System

variable {σ τ : Type} {env : WorkerEnv σ τ} {S T : System σ τ} {e : Event} {events : List Event}
  {service : σ} {store : τ} {clock : Nat}

def sends (S : System σ τ) : Event → List Uuid
  | .call k => ((S.tasks[k]?).map fun t => t.call.sends).getD []
  | _ => []

def begins (S : System σ τ) : Event → List Uuid
  | .consumer i => S.worker.begins i
  | _ => []

def reads (S : System σ τ) : Event → List Nat
  | .consumer i => S.worker.reads i
  | _ => []

theorem Happens.queued (h : Happens env S e T) :
    S.worker.queued ++ S.sends e = S.begins e ++ T.worker.queued := by
  cases h with
  | request | giveUp | wait | shutdown => simp [sends, begins, setCall, Worker.queued]
  | call at_ turn => simp [sends, begins, setCall, at_, turn.queued]
  | consumer turn => simp [sends, begins, turn.queued]

/-- Ids are begun in the order in which they were sent, and the queue holds those not yet begun. -/
theorem sends_eq (h : (fresh service store clock).run env events = some S) :
    (fresh service store clock).along env sends events =
      (fresh service store clock).along env begins events ++ S.worker.queued := by
  refine run_induction (motive := fun events S =>
    (fresh service store clock).along env sends events =
      (fresh service store clock).along env begins events ++ S.worker.queued) rfl ?_ h
  intro events R e T hR ih hT
  rw [along_concat sends hR, along_concat begins hR, ih, List.append_assoc, List.append_assoc,
    (happens_of_step hT).queued]

def LeavesStore (S : System σ τ) : Prop := ∀ t ∈ S.tasks, t.call.usesStore = false

theorem Happens.leavesStore (h : Happens env S e T) (leaves : S.LeavesStore)
    (only : ∀ r, e = .request r → r.usesStore = false) : T.LeavesStore := by
  cases h with
  | request r =>
    intro t ht
    obtain ht | ht := List.mem_append.mp ht
    · exact leaves t ht
    · obtain rfl := List.mem_singleton.mp ht
      exact only r rfl
  | call at_ turn =>
    intro t ht
    obtain ht | rfl := List.mem_or_eq_of_mem_set ht
    · exact leaves t ht
    · exact (turn.keeps_desk (leaves _ (List.mem_of_getElem? at_))).2.2
  | giveUp at_ =>
    intro t ht
    obtain ht | rfl := List.mem_or_eq_of_mem_set ht
    · exact leaves t ht
    · rfl
  | consumer | wait | shutdown => exact leaves

theorem leavesStore (only : ∀ r, .request r ∈ events → r.usesStore = false)
    (h : (fresh service store clock).run env events = some S) : S.LeavesStore := by
  revert only
  refine run_induction (motive := fun events S =>
    (∀ r, .request r ∈ events → r.usesStore = false) → S.LeavesStore) ?_ ?_ h
  · intro _ t ht
    simp [fresh] at ht
  · intro events R e T _ ih hT only
    exact (happens_of_step hT).leavesStore (ih fun r hr => only r (List.mem_append_left _ hr))
      fun r hr => only r (by simp [hr])

theorem Happens.follows (h : Happens env S e T) (one : S.worker.OneHasQueue)
    (leaves : S.LeavesStore)
    (loads : ∀ id st, (env.store.load id st).1 ≠ .error .breaks)
    (saves : ∀ s st, (env.store.save s st).1 ≠ .error .breaks)
    {start : List Nat → Desk σ τ} {begun : List Uuid}
    (f : S.worker.Follows env fun later => (start later).processAll env begun) :
    T.worker.Follows env fun later =>
      (start (S.reads e ++ later)).processAll env (begun ++ S.begins e) := by
  cases h with
  | request | giveUp | wait | shutdown =>
    simp only [reads, begins, List.nil_append, List.append_nil]
    exact f.congr rfl rfl (fun _ _ h _ => h) id
  | call at_ turn =>
    simp only [reads, begins, List.nil_append, List.append_nil]
    exact turn.follows (leaves _ (List.mem_of_getElem? at_)) f
  | consumer turn => exact turn.follows one loads saves f

/-- Over a run, work alone is given the ids that are begun, with the readings that are taken. -/
theorem follows_of_run (loads : ∀ id st, (env.store.load id st).1 ≠ .error .breaks)
    (saves : ∀ s st, (env.store.save s st).1 ≠ .error .breaks) (one : S.worker.OneHasQueue)
    (leaves : S.LeavesStore) {start : List Nat → Desk σ τ} {begun : List Uuid}
    (f : S.worker.Follows env fun later => (start later).processAll env begun)
    (only : ∀ r, .request r ∈ events → r.usesStore = false) (h : S.run env events = some T) :
    T.worker.Follows env fun later =>
      (start (S.along env reads events ++ later)).processAll env
        (begun ++ S.along env begins events) := by
  suffices all : T.worker.OneHasQueue ∧ T.LeavesStore ∧ T.worker.Follows env fun later =>
      (start (S.along env reads events ++ later)).processAll env
        (begun ++ S.along env begins events) from all.2.2
  revert only
  refine run_induction (motive := fun events T =>
    (∀ r, .request r ∈ events → r.usesStore = false) →
      T.worker.OneHasQueue ∧ T.LeavesStore ∧ T.worker.Follows env fun later =>
        (start (S.along env reads events ++ later)).processAll env
          (begun ++ S.along env begins events)) ?_ ?_ h
  · intro _
    refine ⟨one, leaves, ?_⟩
    simpa only [along, List.nil_append, List.append_nil] using f
  · intro events R e T hR ih hT only
    obtain ⟨one, leaves, f⟩ := ih fun r hr => only r (List.mem_append_left _ hr)
    have hap := happens_of_step hT
    refine ⟨hap.oneHasQueue one, hap.leavesStore leaves fun r hr => only r (by simp [hr]), ?_⟩
    have next := hap.follows one leaves loads saves f
    simpa only [along_concat begins hR, along_concat reads hR, List.append_assoc] using next

/-- What `S` comes to by work alone on `ids`, with the readings of a run and those `later`. -/
def alone (env : WorkerEnv σ τ) (S : System σ τ) (events : List Event) (ids : List Uuid)
    (later : List Nat) : Desk σ τ :=
  (S.worker.desk (S.along env reads events ++ later)).processAll env ids

theorem follows (loads : ∀ id st, (env.store.load id st).1 ≠ .error .breaks)
    (saves : ∀ s st, (env.store.save s st).1 ≠ .error .breaks)
    (only : ∀ r, .request r ∈ events → r.usesStore = false)
    (h : (fresh service store clock).run env events = some S) :
    S.worker.Follows env ((fresh service store clock).alone env events
      ((fresh service store clock).along env begins events)) := by
  have first : (fresh service store clock).worker.Follows env fun later =>
      ((fresh service store clock).worker.desk later).processAll env [] :=
    ⟨fun i stage at_ => by simp [fresh] at at_, fun _ later => rfl⟩
  have one : (fresh service store clock).worker.OneHasQueue :=
    fun i j a b at_ => by simp [fresh] at at_
  have leaves : (fresh service store clock).LeavesStore := by simp [LeavesStore, fresh]
  exact follows_of_run loads saves one leaves first only h

/-- However calls and consumers interleave and whatever fails, a worker begins ids in the order in
which they were sent and one at a time, and when it is idle its service and its store are those of
work alone on all sent ids. -/
theorem sequential_refinement (loads : ∀ id st, (env.store.load id st).1 ≠ .error .breaks)
    (saves : ∀ s st, (env.store.save s st).1 ≠ .error .breaks)
    (only : ∀ r, .request r ∈ events → r.usesStore = false)
    (h : (fresh service store clock).run env events = some S) :
    (fresh service store clock).along env begins events <+:
        (fresh service store clock).along env sends events ∧
      (∀ e, S.begins e ≠ [] → S.worker.AllRest) ∧
      (S.worker.Idle → (fresh service store clock).alone env events
        ((fresh service store clock).along env sends events) [] = S.worker.desk []) := by
  have order := sends_eq h
  refine ⟨⟨_, order.symm⟩, fun e he => ?_, fun ⟨none_, rests⟩ => ?_⟩
  · cases e with
    | consumer i => exact (oneHasQueue h).allRest_of_begins he
    | _ => exact absurd rfl he
  · rw [order, none_, List.append_nil]
    exact (follows loads saves only h).atRest rests []

def restartEnv : WorkerEnv Unit CountedStore :=
  .ofOutcome (fun _ => none) (fun n => if n = 1 then some (.fails (.unreachable "down")) else none)
    fun _ code => .assessed (.graded .failed 0 code)

def restartStore : CountedStore :=
  { store := ⟨[.fresh ⟨1⟩ (restartEnv.date 0) "sqli_001" "one" none,
      .fresh ⟨2⟩ (restartEnv.date 0) "xss_001" "two" none]⟩ }

/-- The worker is stopped during the first of two passes, but not waited for to the end. Started
again, it has a second consumer, to which the queue comes after both passes. -/
def restartEvents : List Event :=
  Request.start.events 0 1 ++ (Request.enqueue ⟨1⟩).events 1 2 ++
    (Request.enqueue ⟨2⟩).events 2 2 ++ List.replicate 4 (.consumer 0) ++
    Request.stop.events 3 3 ++ .wait 10 :: .giveUp 3 :: Request.start.events 4 1 ++
    List.replicate 7 (.consumer 0) ++ .wait 5 :: List.replicate 4 (.consumer 0) ++ [.consumer 1]

theorem sequential_refinement_restart :
    (∀ id st, (restartEnv.store.load id st).1 ≠ .error .breaks) ∧
      (∀ s st, (restartEnv.store.save s st).1 ≠ .error .breaks) ∧
      (∀ r, .request r ∈ restartEvents → r.usesStore = false) ∧
      ∃ S, (fresh () restartStore 0).run restartEnv restartEvents = some S ∧ S.worker.Idle ∧
        (fresh () restartStore 0).along restartEnv begins restartEvents <+:
          (fresh () restartStore 0).along restartEnv sends restartEvents ∧
        (∀ e, S.begins e ≠ [] → S.worker.AllRest) ∧
        (fresh () restartStore 0).alone restartEnv restartEvents
          ((fresh () restartStore 0).along restartEnv sends restartEvents) [] =
            S.worker.desk [] := by
  have loads : ∀ id st, (restartEnv.store.load id st).1 ≠ .error .breaks := by
    intro id st
    simp [restartEnv, WorkerEnv.ofOutcome, StoreAccess.inMemory]
  have saves : ∀ s st, (restartEnv.store.save s st).1 ≠ .error .breaks := by
    intro s st
    simp only [restartEnv, WorkerEnv.ofOutcome, StoreAccess.inMemory]
    split
    · rename_i fault hf
      obtain ⟨_, rfl⟩ : st.saves = 1 ∧ .fails (.unreachable "down") = fault := by simpa using hf
      nofun
    · nofun
  have only : ∀ r, .request r ∈ restartEvents → r.usesStore = false := by
    intro r hr
    simp [restartEvents, Request.events] at hr
    rcases hr with rfl | rfl | rfl | rfl | rfl <;> rfl
  have goes : ((fresh () restartStore 0).run restartEnv restartEvents).any (fun S =>
      S.worker.queued.isEmpty && S.worker.consumers.all (!·.works)) = true := by decide +kernel
  obtain ⟨S, hS, goes⟩ := (Option.any_eq_true _ _).mp goes
  have idle : S.worker.Idle := by
    simpa [Worker.Idle, Worker.AllRest] using goes
  have ⟨order, apart, alone_⟩ := sequential_refinement loads saves only hS
  exact ⟨loads, saves, only, S, hS, idle, order, apart, alone_ idle⟩

end System

end FixGrader
