import FixGrader.Proofs.Worker.Records
import FixGrader.Proofs.Worker.Sequential

namespace FixGrader

/-- No call on the store goes wrong. -/
structure StoreAccess.Faultless {τ : Type} (access : StoreAccess τ) : Prop where
  load : ∀ id st f, (access.load id st).1 ≠ .error f
  save : ∀ s st f, (access.save s st).1 ≠ .error f

theorem WorkerEnv.ofOutcome_faultless (outcome : String → String → PassOutcome) :
    (ofOutcome (fun _ => none) (fun _ => none) outcome).store.Faultless where
  load id st f := by simp [ofOutcome, StoreAccess.inMemory]
  save s st f := by simp [ofOutcome, StoreAccess.inMemory]

def Call.result? : Call → Option CallResult
  | .over result => some result
  | _ => none

def Request.isRescore : Request → Bool
  | rescore .. => true
  | _ => false

/-- The record is what one of these passes over this code came to. -/
def Submission.ResultOf (code : String) (passes : List (Submission × PassOutcome))
    (r : Submission) : Prop :=
  ∃ s outcome date, (s, outcome) ∈ passes ∧ s.code = code ∧ r = Worker.concluded date s outcome

/-- A consumer with the record `id` in hand has this code, and an outcome of one of these passes. -/
def Stage.Serves (id : Uuid) (code : String) (passes : List (Submission × PassOutcome)) :
    Stage → Prop
  | marking s => s.id = id → s.code = code
  | scoring s outcome _ => s.id = id → s.code = code ∧ (s, outcome) ∈ passes
  | storing s => s.id = id → s.ResultOf code passes
  | retrying s | givingUp s => s.id ≠ id
  | _ => True

section

variable {id : Uuid} {code : String} {passes : List (Submission × PassOutcome)}

theorem Submission.ResultOf.mono {r : Submission} (h : r.ResultOf code passes)
    (more : List (Submission × PassOutcome)) : r.ResultOf code (passes ++ more) := by
  obtain ⟨s, outcome, date, mem, hc, rfl⟩ := h
  exact ⟨s, outcome, date, List.mem_append_left _ mem, hc, rfl⟩

theorem Submission.ResultOf.code_eq {r : Submission} (h : r.ResultOf code passes) :
    r.code = code := by
  obtain ⟨s, outcome, date, _, hc, rfl⟩ := h
  rw [Worker.concluded_code, hc]

theorem Stage.Serves.mono {stage : Stage} (h : stage.Serves id code passes)
    (more : List (Submission × PassOutcome)) : stage.Serves id code (passes ++ more) := by
  cases stage with
  | scoring => exact fun hid => ⟨(h hid).1, List.mem_append_left _ (h hid).2⟩
  | storing => exact fun hid => (h hid).mono more
  | _ => exact h

theorem Stage.serves_of_copy_ne {stage : Stage} (h : ∀ s, stage.copy? = some s → s.id ≠ id) :
    stage.Serves id code passes := by
  cases stage with
  | marking s | scoring s | storing s => exact fun hid => absurd hid (h s rfl)
  | retrying s | givingUp s => exact h s rfl
  | _ => trivial

end

namespace Worker

variable {σ τ : Type} {env : WorkerEnv σ τ} {w w' : Worker σ τ} {i : Nat} {c c' : Call}
  {find : τ → Uuid → Option Submission} {id : Uuid} {code : String}
  {done : List (Submission × PassOutcome)}

def passes (env : WorkerEnv σ τ) (w : Worker σ τ) (i : Nat) : List (Submission × PassOutcome) :=
  match w.consumers[i]? with
  | some (.marking s) => [(s, (env.pass w.service w.clock s).1)]
  | _ => []

theorem Turn.find_of_saving (keeps : env.store.Keeps find) (ok : env.store.Faultless)
    (h : Turn env w i w') {s : Submission}
    (saving : (w.consumers[i]?).bind Stage.saving? = some s) :
    find w'.store = Function.update (find w.store) s.id (some s) := by
  cases h with
  | saveBreaks _ _ save | markFails _ save | storeFails _ save | retryFails _ save
  | giveUpFails _ save => exact absurd (congrArg Prod.fst save) (ok.save _ _ _)
  | pass at_ save =>
    rw [at_] at saving
    cases saving
    exact find_of_save keeps save
  | stored at_ saving' _ save =>
    rw [at_, Option.bind_some, saving'] at saving
    cases saving
    exact find_of_save keeps save
  | letIn at_ | halt at_ | begin at_ | loadBreaks at_ | loadFails at_ | missing at_ | skip at_
  | take at_ | conclude at_ | acknowledge at_ =>
    rw [at_] at saving
    cases saving

theorem Turn.of_marking (ok : env.store.Faultless) (h : Turn env w i w') {s : Submission}
    (at_ : w.consumers[i]? = some (.marking s)) :
    ∃ outcome due, w'.consumers[i]? = some (.scoring s outcome due) := by
  cases h with
  | saveBreaks _ _ save | markFails _ save =>
    exact absurd (congrArg Prod.fst save) (ok.save _ _ _)
  | pass at_' =>
    cases at_.symm.trans at_'
    exact ⟨_, _, stage_of_set at_ rfl⟩
  | stored at_' saving unmarked =>
    cases at_.symm.trans at_'
    cases saving
    exact absurd rfl unmarked
  | letIn at_' | halt at_' | begin at_' | loadBreaks at_' | loadFails at_' | missing at_'
  | skip at_' | take at_' | conclude at_' | storeFails at_' | retryFails at_' | giveUpFails at_'
  | acknowledge at_' => cases at_.symm.trans at_'

theorem Turn.of_scoring (h : Turn env w i w') {s : Submission} {outcome : PassOutcome} {due : Nat}
    (at_ : w.consumers[i]? = some (.scoring s outcome due)) :
    ∃ date, w'.consumers[i]? = some (.storing (concluded date s outcome)) := by
  cases h with
  | conclude at_' =>
    cases at_.symm.trans at_'
    exact ⟨_, stage_of_set at_ rfl⟩
  | saveBreaks at_' saving | stored at_' saving =>
    cases at_.symm.trans at_'
    cases saving
  | letIn at_' | halt at_' | begin at_' | loadBreaks at_' | loadFails at_' | missing at_'
  | skip at_' | take at_' | markFails at_' | pass at_' | storeFails at_' | retryFails at_'
  | giveUpFails at_' | acknowledge at_' => cases at_.symm.trans at_'

theorem Turn.of_loading (keeps : env.store.Keeps find) (ok : env.store.Faultless)
    (h : Turn env w i w') (at_ : w.consumers[i]? = some (.loading id)) {r : Submission}
    (stored : find w.store id = some r) (pending : r.status = .pending) :
    ∃ s, w'.consumers[i]? = some (.marking s) ∧ s.id = id := by
  cases h with
  | loadBreaks _ load | loadFails _ load =>
    exact absurd (congrArg Prod.fst load) (ok.load _ _ _)
  | missing at_' load =>
    cases at_.symm.trans at_'
    cases stored.symm.trans (eq_of_load keeps load)
  | skip at_' load other =>
    cases at_.symm.trans at_'
    cases stored.symm.trans (eq_of_load keeps load)
    exact absurd pending other
  | @take _ s _ at_' load =>
    cases at_.symm.trans at_'
    have hs : s.id = id := keeps.named _ _ _ (eq_of_load keeps load)
    exact ⟨_, stage_of_set at_ rfl, hs⟩
  | saveBreaks at_' saving | stored at_' saving =>
    cases at_.symm.trans at_'
    cases saving
  | letIn at_' | halt at_' | begin at_' | markFails at_' | pass at_' | conclude at_'
  | storeFails at_' | retryFails at_' | giveUpFails at_' | acknowledge at_' =>
    cases at_.symm.trans at_'

theorem Turn.serves (keeps : env.store.Keeps find) (ok : env.store.Faultless)
    (h : Turn env w i w') {r : Submission} (stored : find w.store id = some r)
    (hc : r.code = code)
    (serves : ∀ stage, w.consumers[i]? = some stage → stage.Serves id code done)
    {stage : Stage} (at_ : w'.consumers[i]? = some stage) :
    stage.Serves id code (done ++ w.passes env i) := by
  cases h with
  | @take _ s _ _ load =>
    cases stage_of_enter at_
    intro hid
    have found : find w.store s.id = some s := found_of_load keeps load
    obtain rfl : r = s := by simpa [show s.id = id from hid, stored] using found
    exact hc
  | pass before _ ends =>
    cases stage_of_enter at_
    intro hid
    refine ⟨serves _ before hid, List.mem_append_right _ ?_⟩
    simp [passes, before, ends]
  | conclude before =>
    cases stage_of_enter at_
    intro hid
    obtain ⟨hc, mem⟩ := serves _ before (by simpa using! hid)
    exact ⟨_, _, _, List.mem_append_left _ mem, hc, rfl⟩
  | storeFails _ save | retryFails _ save =>
    exact absurd (congrArg Prod.fst save) (ok.save _ _ _)
  | _ =>
    cases stage_of_enter at_
    trivial

theorem Turn.keeps_queued (h : Turn env w i w') (mem : .score id ∈ w.queue) :
    .score id ∈ w'.queue ∨ w'.consumers[i]? = some (.loading id) := by
  cases h with
  | halt _ head =>
    rw [head] at mem
    obtain he | mem := List.mem_cons.mp mem
    · cases he
    · exact .inl mem
  | begin at_ head =>
    rw [head] at mem
    obtain he | mem := List.mem_cons.mp mem
    · cases he
      exact .inr (stage_of_set at_ rfl)
    · exact .inl mem
  | _ => exact .inl mem

theorem CallTurn.find_of_saving (keeps : env.store.Keeps find) (ok : env.store.Faultless)
    (h : CallTurn env w c w' c') {s : Submission} (saving : c.saving? = some s) :
    find w'.store = Function.update (find w.store) s.id (some s) := by
  cases h with
  | submitted save | restored save =>
    cases saving
    exact find_of_save keeps save
  | submitFault save | restoreFault save => exact absurd (congrArg Prod.fst save) (ok.save _ _ _)
  | _ => cases saving

theorem CallTurn.of_restore (ok : env.store.Faultless) {id : Uuid} {s : Submission}
    (h : CallTurn env w (.restore id s) w' c') : c' = .enqueue id (.over .done) := by
  cases h with
  | restored => rfl
  | restoreFault save => exact absurd (congrArg Prod.fst save) (ok.save _ _ _)

theorem CallTurn.keeps_queued (h : CallTurn env w c w' c') {m : Message} (mem : m ∈ w.queue) :
    m ∈ w'.queue := by
  cases h with
  | start =>
    unfold Worker.start
    split <;> exact mem
  | sendStop | send => exact List.mem_append_left _ mem
  | _ => exact mem

end Worker

namespace System

variable {σ τ : Type} {env : WorkerEnv σ τ} {S T : System σ τ} {e : Event}
  {find : τ → Uuid → Option Submission} {id : Uuid} {code : String}
  {done : List (Submission × PassOutcome)}

def passes (env : WorkerEnv σ τ) (S : System σ τ) : Event → List (Submission × PassOutcome)
  | .consumer i => S.worker.passes env i
  | _ => []

/-- The new code that an event saves for `id`, if it is the save of a rescore with code. -/
def replaces (id : Uuid) (S : System σ τ) : Event → List String
  | .call k =>
    match S.tasks[k]? with
    | some ⟨.rescore i (some code), .restore _ _⟩ => if i = id then [code] else []
    | _ => []
  | _ => []

/-- Neither a consumer nor a rescore without code has the record `id` in hand. -/
def Unshared (id : Uuid) (S : System σ τ) : Prop :=
  (∀ stage ∈ S.worker.consumers, ∀ s ∈ stage.copy?, s.id ≠ id) ∧
    ∀ t ∈ S.tasks, t.request = .rescore id none → t.call.copy? = none

instance (S : System σ τ) : Decidable (S.Unshared id) :=
  inferInstanceAs (Decidable ((∀ stage ∈ S.worker.consumers, ∀ s ∈ stage.copy?, s.id ≠ id) ∧
    ∀ t ∈ S.tasks, t.request = .rescore id none → t.call.copy? = none))

/-- No rescore is going on, no id is in the queue, and no consumer is at work on one. -/
def Quiet (S : System σ τ) : Prop :=
  (∀ t ∈ S.tasks, t.request.isRescore = true → t.call.result?.isSome = true) ∧ S.worker.Idle

instance (S : System σ τ) : Decidable S.Quiet :=
  inferInstanceAs (Decidable ((∀ t ∈ S.tasks, t.request.isRescore = true →
    t.call.result?.isSome = true) ∧ S.worker.queued = [] ∧
      ∀ stage ∈ S.worker.consumers, stage.works = false))

/-- A consumer is still going to load the record `id`. -/
inductive Coming (id : Uuid) (S : System σ τ) : Prop
  | counting {k : Nat} {code : Option String}
      (at_ : S.tasks[k]? = some ⟨.rescore id code, .enqueue id (.over .done)⟩)
  | sending {k : Nat} {code : Option String}
      (at_ : S.tasks[k]? = some ⟨.rescore id code, .send id (.over .done)⟩)
  | queued (mem : .score id ∈ S.worker.queue)
  | loading {i : Nat} (at_ : S.worker.consumers[i]? = some (.loading id))

/-- The code `code` stays with `id`: it is what is stored, and what all have in hand that may still
save it. `done` are the passes so far. -/
structure Kept (find : τ → Uuid → Option Submission) (id : Uuid) (code : String)
    (done : List (Submission × PassOutcome)) (S : System σ τ) : Prop where
  stored : ∃ r, find S.worker.store id = some r ∧ r.code = code
  serves : ∀ (i : Nat) (stage : Stage), S.worker.consumers[i]? = some stage →
    stage.Serves id code done
  calls : ∀ (k : Nat) (t : Task) (s : Submission), S.tasks[k]? = some t →
    t.request = .rescore id none → t.call.copy? = some s → s.code = code

/-- The record `id` is scored, is being scored, or is going to be. -/
inductive Owed (find : τ → Uuid → Option Submission) (id : Uuid) (code : String)
    (done : List (Submission × PassOutcome)) (S : System σ τ) : Prop
  | coming {r : Submission} (stored : find S.worker.store id = some r)
      (pending : r.status = .pending) (coming : S.Coming id)
  | inHand {i : Nat} {stage : Stage} {s : Submission} (at_ : S.worker.consumers[i]? = some stage)
      (copy : stage.copy? = some s) (same : s.id = id)
  | scored {r : Submission} (stored : find S.worker.store id = some r)
      (result : r.ResultOf code done)

theorem Happens.find_of_saving (keeps : env.store.Keeps find) (ok : env.store.Faultless)
    (h : Happens env S e T) {s : Submission} (saving : S.saving? e = some s) :
    find T.worker.store = Function.update (find S.worker.store) s.id (some s) := by
  cases h with
  | request | giveUp | wait | shutdown => cases saving
  | consumer turn => exact turn.find_of_saving keeps ok saving
  | call at_ turn =>
    rw [saving?, at_] at saving
    exact turn.find_of_saving keeps ok saving

theorem Kept.saving_cases (kept : S.Kept find id code done) (fits : ∀ t ∈ S.tasks, t.Fits)
    (others : ∀ t ∈ S.tasks, ∀ s, t.request = .submit s → s.id ≠ id)
    (last : S.replaces id e = []) {s : Submission} (saving : S.saving? e = some s)
    (same : s.id = id) :
    (∃ i, e = .consumer i ∧ S.worker.consumers[i]? = some (.marking s) ∧ s.code = code) ∨
      (∃ i, e = .consumer i ∧ S.worker.consumers[i]? = some (.storing s) ∧
        s.ResultOf code done) ∨
      ∃ k, e = .call k ∧ S.tasks[k]? = some ⟨.rescore id none, .restore id s⟩ ∧
        s.status = .pending ∧ s.code = code := by
  cases e with
  | call k =>
    obtain ⟨⟨request, c⟩, at_, saving⟩ := Option.bind_eq_some_iff.mp saving
    have mem := List.mem_of_getElem? at_
    have fit := fits _ mem
    cases c <;> cases saving
    · exact absurd same (others _ mem s fit)
    · obtain ⟨rfl, new, rfl, pending, _⟩ := fit
      subst same
      cases new with
      | some new => simp [replaces, at_] at last
      | none => exact .inr (.inr ⟨k, rfl, at_, pending, kept.calls k _ s at_ rfl rfl⟩)
  | consumer i =>
    obtain ⟨stage, at_, saving⟩ := Option.bind_eq_some_iff.mp saving
    have serves := kept.serves i stage at_
    cases stage <;> cases saving
    · exact .inl ⟨i, rfl, at_, serves same⟩
    · exact .inr (.inl ⟨i, rfl, at_, serves same⟩)
    · exact absurd same serves
    · exact absurd same serves
  | _ => cases saving

theorem Happens.kept (keeps : env.store.Keeps find) (ok : env.store.Faultless)
    (h : Happens env S e T) (kept : S.Kept find id code done) (fits : ∀ t ∈ S.tasks, t.Fits)
    (others : ∀ t ∈ S.tasks, ∀ s, t.request = .submit s → s.id ≠ id)
    (last : S.replaces id e = []) : T.Kept find id code (done ++ S.passes env e) where
  stored := by
    obtain same | ⟨s, saving, update⟩ := h.find_cases keeps
    · rw [same]
      exact kept.stored
    · by_cases hid : s.id = id
      · refine ⟨s, by simp [update, hid], ?_⟩
        obtain ⟨_, _, _, hc⟩ | ⟨_, _, _, result⟩ | ⟨_, _, _, _, hc⟩ :=
          kept.saving_cases fits others last saving hid
        · exact hc
        · exact result.code_eq
        · exact hc
      · rw [update, Function.update_of_ne (Ne.symm hid)]
        exact kept.stored
  serves i stage at_ := by
    obtain ⟨_, before⟩ | rfl | ⟨rfl, turn⟩ := h.stage_cases at_
    · exact (kept.serves i stage before).mono _
    · trivial
    · obtain ⟨r, stored, hc⟩ := kept.stored
      exact turn.serves keeps ok stored hc (kept.serves i) at_
  calls k t s at_ codeless copy := by
    have mine := h.fits keeps fits t (List.mem_of_getElem? at_)
    obtain ⟨_, before⟩ | ⟨r, rfl, _, rfl⟩ | ⟨u, rfl, before, same, turn⟩ | ended := h.task_cases at_
    · exact kept.calls k t s before codeless copy
    · cases codeless
      cases copy
    · rw [same] at codeless
      obtain had | found | ⟨i, r, date, new, examine, rfl⟩ := turn.copy_cases keeps copy
      · exact kept.calls k u s before codeless had
      · obtain ⟨r, stored, hc⟩ := kept.stored
        rw [mine.copy_id (same.trans codeless) copy] at found
        cases stored.symm.trans found
        exact hc
      · have fit := fits u (List.mem_of_getElem? before)
        rw [Task.Fits, examine] at fit
        cases codeless.symm.trans fit.2
        exact kept.calls k u r before codeless (by rw [examine]; rfl)
    · rw [ended] at copy
      cases copy

theorem Happens.coming (keeps : env.store.Keeps find) (ok : env.store.Faultless)
    (h : Happens env S e T) (coming : S.Coming id) {r : Submission}
    (stored : find S.worker.store id = some r) (pending : r.status = .pending) :
    T.Coming id ∨ ∃ (i : Nat) (s : Submission),
      T.worker.consumers[i]? = some (.marking s) ∧ s.id = id := by
  cases coming with
  | @counting k code at_ =>
    by_cases he : e = .call k
    · subst he
      cases h with
      | call at_' turn =>
        cases at_.symm.trans at_'
        cases turn
        exact .inl (.sending (setCall_at at_ _ _))
    · exact .inl (.counting (h.keeps_task at_ he rfl))
  | @sending k code at_ =>
    by_cases he : e = .call k
    · subst he
      cases h with
      | call at_' turn =>
        cases at_.symm.trans at_'
        cases turn
        exact .inl (.queued (by simp [setCall]))
    · exact .inl (.sending (h.keeps_task at_ he rfl))
  | queued mem =>
    cases h with
    | request | giveUp | wait | shutdown => exact .inl (.queued mem)
    | call _ turn => exact .inl (.queued (turn.keeps_queued mem))
    | consumer turn =>
      obtain mem | at_ := turn.keeps_queued mem
      · exact .inl (.queued mem)
      · exact .inl (.loading at_)
  | @loading i at_ =>
    by_cases he : e = .consumer i
    · subst he
      cases h with
      | consumer turn => exact .inr ⟨i, turn.of_loading keeps ok at_ stored pending⟩
    · exact .inl (.loading (h.keeps_stage at_ he))

theorem Happens.owed_of_saving (keeps : env.store.Keeps find) (ok : env.store.Faultless)
    (h : Happens env S e T) (kept : S.Kept find id code done) (fits : ∀ t ∈ S.tasks, t.Fits)
    (others : ∀ t ∈ S.tasks, ∀ s, t.request = .submit s → s.id ≠ id)
    (last : S.replaces id e = []) {s : Submission} (saving : S.saving? e = some s)
    (same : s.id = id) : T.Owed find id code (done ++ S.passes env e) := by
  have stored : find T.worker.store id = some s := by
    rw [h.find_of_saving keeps ok saving, same, Function.update_self]
  obtain ⟨i, rfl, at_, _⟩ | ⟨i, rfl, _, result⟩ | ⟨k, rfl, at_, pending, _⟩ :=
    kept.saving_cases fits others last saving same
  · cases h with
    | consumer turn =>
      obtain ⟨outcome, due, now⟩ := turn.of_marking ok at_
      exact .inHand now rfl same
  · exact .scored stored (result.mono _)
  · refine .coming stored pending ?_
    cases h with
    | call at_' turn =>
      cases at_.symm.trans at_'
      rw [turn.of_restore ok]
      exact .counting (setCall_at at_ _ _)

theorem Happens.owed (keeps : env.store.Keeps find) (ok : env.store.Faultless)
    (h : Happens env S e T) (kept : S.Kept find id code done) (fits : ∀ t ∈ S.tasks, t.Fits)
    (others : ∀ t ∈ S.tasks, ∀ s, t.request = .submit s → s.id ≠ id)
    (last : S.replaces id e = []) (owed : S.Owed find id code done) :
    T.Owed find id code (done ++ S.passes env e) := by
  by_cases saves : ∃ s, S.saving? e = some s ∧ s.id = id
  · obtain ⟨s, saving, same⟩ := saves
    exact h.owed_of_saving keeps ok kept fits others last saving same
  have kept_ : find T.worker.store id = find S.worker.store id := by
    obtain same | ⟨s, saving, update⟩ := h.find_cases keeps
    · rw [same]
    · rw [update, Function.update_of_ne fun hid => saves ⟨s, saving, hid.symm⟩]
  cases owed with
  | coming stored pending coming =>
    obtain coming | ⟨i, s, at_, same⟩ := h.coming keeps ok coming stored pending
    · exact .coming (kept_ ▸ stored) pending coming
    · exact .inHand at_ rfl same
  | @inHand i stage s at_ copy same =>
    by_cases he : e = .consumer i
    · subst he
      cases stage with
      | scoring r outcome due =>
        cases copy
        cases h with
        | consumer turn =>
          obtain ⟨date, now⟩ := turn.of_scoring at_
          exact .inHand now rfl (by simpa using same)
      | marking | storing | retrying | givingUp =>
        cases copy
        exact absurd ⟨s, by simp [saving?, at_, Stage.saving?], same⟩ saves
      | _ => cases copy
    · exact .inHand (h.keeps_stage at_ he) copy same
  | scored stored result => exact .scored (kept_ ▸ stored) (result.mono _)

variable {service : σ} {store : τ} {clock : Nat} {before after events : List Event}

theorem kept_owed (keeps : env.store.Keeps find) (ok : env.store.Faultless)
    (h : S.run env events = some T) (kept : S.Kept find id code []) (owed : S.Owed find id code [])
    (fits : ∀ t ∈ S.tasks, t.Fits)
    (others : ∀ t ∈ S.tasks, ∀ s, t.request = .submit s → s.id ≠ id)
    (others' : ∀ s, .request (.submit s) ∈ events → s.id ≠ id)
    (last : S.along env (replaces id) events = []) :
    T.Kept find id code (S.along env (passes env) events) ∧
      T.Owed find id code (S.along env (passes env) events) := by
  suffices all : T.Kept find id code (S.along env (passes env) events) ∧
      T.Owed find id code (S.along env (passes env) events) ∧ (∀ t ∈ T.tasks, t.Fits) ∧
      ∀ t ∈ T.tasks, ∀ s, t.request = .submit s → s.id ≠ id from ⟨all.1, all.2.1⟩
  revert others' last
  refine run_induction (motive := fun events T =>
    (∀ s, .request (.submit s) ∈ events → s.id ≠ id) →
      S.along env (replaces id) events = [] →
      T.Kept find id code (S.along env (passes env) events) ∧
        T.Owed find id code (S.along env (passes env) events) ∧ (∀ t ∈ T.tasks, t.Fits) ∧
        ∀ t ∈ T.tasks, ∀ s, t.request = .submit s → s.id ≠ id) ?_ ?_ h
  · intro _ _
    exact ⟨kept, owed, fits, others⟩
  · intro events R e T hR ih hT others' last
    rw [along_concat (replaces id) hR] at last
    obtain ⟨lastBefore, lastNow⟩ := List.append_eq_nil_iff.mp last
    obtain ⟨kept, owed, fits, others⟩ :=
      ih (fun s hs => others' s (List.mem_append_left _ hs)) lastBefore
    have hap := happens_of_step hT
    rw [along_concat (passes env) hR]
    refine ⟨hap.kept keeps ok kept fits others lastNow,
      hap.owed keeps ok kept fits others lastNow owed, hap.fits keeps fits, fun t ht s hs => ?_⟩
    obtain ⟨u, hu, same⟩ | rfl := hap.request_mem ht
    · exact others u hu s (same.trans hs)
    · exact others' s (by simp [hs])

theorem task_of_replaces (h : S.replaces id e = [code]) :
    ∃ k i s, e = .call k ∧ S.tasks[k]? = some ⟨.rescore id (some code), .restore i s⟩ := by
  unfold replaces at h
  split at h
  · split at h
    · split at h <;> cases h
      subst id
      exact ⟨_, _, _, rfl, ‹_›⟩
    · cases h
  · cases h

theorem Happens.task_of_restore (ok : env.store.Faultless) {k : Nat} {r : Request} {s : Submission}
    (h : Happens env S (.call k) T) (at_ : S.tasks[k]? = some ⟨r, .restore id s⟩) :
    T.tasks[k]? = some ⟨r, .enqueue id (.over .done)⟩ := by
  cases h with
  | call at_' turn =>
    cases at_.symm.trans at_'
    rw [turn.of_restore ok]
    exact setCall_at at_ _ _

theorem Happens.kept_owed (keeps : env.store.Keeps find) (ok : env.store.Faultless)
    (h : Happens env S e T) (fits : ∀ t ∈ S.tasks, t.Fits)
    (replaces : S.replaces id e = [code]) (unshared : S.Unshared id) :
    T.Kept find id code [] ∧ T.Owed find id code [] := by
  obtain ⟨k, i, s, rfl, at_⟩ := task_of_replaces replaces
  obtain ⟨rfl, new, request, pending, hc⟩ := fits _ (List.mem_of_getElem? at_)
  cases request
  have saving : S.saving? (.call k) = some s := by simp [saving?, at_, Call.saving?]
  have stored : find T.worker.store s.id = some s := by
    rw [h.find_of_saving keeps ok saving, Function.update_self]
  refine ⟨⟨⟨s, stored, hc⟩, fun i stage now => ?_, fun l t r now codeless copy => ?_⟩,
    .coming stored pending (.counting (h.task_of_restore ok at_))⟩
  · obtain ⟨_, before⟩ | rfl | ⟨he, _⟩ := h.stage_cases now
    · exact Stage.serves_of_copy_ne (unshared.1 stage (List.mem_of_getElem? before))
    · trivial
    · cases he
  · obtain ⟨_, before⟩ | ⟨_, he, _⟩ | ⟨u, he, before, same, _⟩ | ended := h.task_cases now
    · simp [unshared.2 t (List.mem_of_getElem? before) codeless] at copy
    · cases he
    · cases he
      cases at_.symm.trans before
      cases same.symm.trans codeless
    · rw [ended] at copy
      cases copy

theorem Quiet.not_coming (quiet : S.Quiet) : ¬S.Coming id := by
  intro coming
  cases coming with
  | counting at_ | sending at_ =>
    have ended := quiet.1 _ (List.mem_of_getElem? at_) rfl
    simp [Call.result?] at ended
  | queued mem =>
    have none_ := quiet.2.1
    simp only [Worker.queued, List.filterMap_eq_nil_iff] at none_
    cases none_ _ mem
  | loading at_ =>
    have rests := quiet.2.2 _ (List.mem_of_getElem? at_)
    cases rests

theorem Quiet.copy_ne (quiet : S.Quiet) {i : Nat} {stage : Stage} {s : Submission}
    (at_ : S.worker.consumers[i]? = some stage) : stage.copy? ≠ some s := by
  intro copy
  have rests := quiet.2.2 stage (List.mem_of_getElem? at_)
  cases stage <;> cases copy <;> cases rests

/-- If nobody else has the record in hand when a rescore saves new code, and no other rescore brings
in code later, then this code is stored once all is quiet, with an outcome of a pass over it that
began after the save. -/
theorem unshared_rescore_kept (keeps : env.store.Keeps find) (ok : env.store.Faultless)
    (others : ∀ s, .request (.submit s) ∈ before ++ e :: after → s.id ≠ id) {R : System σ τ}
    (hR : (fresh service store clock).run env before = some R) (hS : R.step env e = some S)
    (hT : S.run env after = some T) (replaces_ : R.replaces id e = [code])
    (unshared : R.Unshared id) (last : S.along env (replaces id) after = []) (quiet : T.Quiet) :
    ∃ r, find T.worker.store id = some r ∧ r.code = code ∧
      r.ResultOf code (S.along env (passes env) after) := by
  have hap := happens_of_step hS
  have fits := fits keeps hR
  obtain ⟨kept, owed⟩ := hap.kept_owed keeps ok fits replaces_ unshared
  have others_ : ∀ t ∈ S.tasks, ∀ s, t.request = .submit s → s.id ≠ id := by
    intro t ht s hs
    have mem := request_mem (run_concat_eq_some.mpr ⟨R, hR, hS⟩) t ht
    refine others s ?_
    rw [List.append_cons]
    exact List.mem_append_left _ (hs ▸ mem)
  obtain ⟨kept, owed⟩ := kept_owed keeps ok hT kept owed (hap.fits keeps fits) others_
    (fun s hs => others s (List.mem_append_right _ (List.mem_cons_of_mem _ hs))) last
  cases owed with
  | coming _ _ coming => exact absurd coming quiet.not_coming
  | inHand at_ copy => exact absurd copy (quiet.copy_ne at_)
  | scored stored result => exact ⟨_, stored, result.code_eq, result⟩

def rescoreEnv : WorkerEnv Unit CountedStore :=
  .ofOutcome (fun _ => none) (fun _ => none) fun _ code => .assessed (.graded .failed 0 code)

def rescoreStore : CountedStore :=
  { store := ⟨[.fresh ⟨1⟩ (rescoreEnv.date 0) "sqli_001" "one" none]⟩ }

/-- After the first pass new code is saved, while a rescore without code has not loaded yet. It
saves the new code once more, during the second pass. -/
def keptBefore : List Event :=
  Request.start.events 0 1 ++ (Request.enqueue ⟨1⟩).events 1 2 ++
    List.replicate 4 (.consumer 0) ++ .wait 5 :: List.replicate 3 (.consumer 0) ++
    .request (.rescore ⟨1⟩ none) :: (Request.rescore ⟨1⟩ (some "two")).events 3 2

def keptAfter : List Event :=
  [.call 2, .call 2, .call 3, .call 3] ++ List.replicate 3 (.consumer 0) ++
    List.replicate 3 (.call 2) ++ .wait 5 :: List.replicate 6 (.consumer 0)

theorem unshared_rescore_kept_twice :
    rescoreEnv.store.Faultless ∧
      (∀ s, .request (.submit s) ∈ keptBefore ++ .call 3 :: keptAfter → s.id ≠ ⟨1⟩) ∧
      ∃ R S T, (fresh () rescoreStore 0).run rescoreEnv keptBefore = some R ∧
        R.step rescoreEnv (.call 3) = some S ∧ S.run rescoreEnv keptAfter = some T ∧
        R.replaces ⟨1⟩ (.call 3) = ["two"] ∧ R.Unshared ⟨1⟩ ∧
        S.along rescoreEnv (replaces ⟨1⟩) keptAfter = [] ∧ T.Quiet ∧
        ∃ r, T.worker.store.find? ⟨1⟩ = some r ∧ r.code = "two" ∧
          r.ResultOf "two" (S.along rescoreEnv (passes rescoreEnv) keptAfter) := by
  have submits : ∀ s, .request (.submit s) ∈ keptBefore ++ .call 3 :: keptAfter → s.id ≠ ⟨1⟩ := by
    intro s hs
    simp [keptBefore, keptAfter, Request.events] at hs
  have goes : ((fresh () rescoreStore 0).run rescoreEnv keptBefore).any (fun R =>
      decide (R.replaces ⟨1⟩ (.call 3) = ["two"]) && decide (R.Unshared ⟨1⟩) &&
        (R.step rescoreEnv (.call 3)).any fun S =>
          decide (S.along rescoreEnv (replaces ⟨1⟩) keptAfter = []) &&
            (S.run rescoreEnv keptAfter).any fun T => decide T.Quiet) = true := by decide +kernel
  obtain ⟨R, hR, goes⟩ := (Option.any_eq_true _ _).mp goes
  simp only [Bool.and_eq_true, decide_eq_true_eq, Option.any_eq_true] at goes
  obtain ⟨⟨saved, unshared⟩, S, hS, last, T, hT, quiet⟩ := goes
  have keeps := WorkerEnv.ofOutcome_keeps (fun _ => none) (fun _ => none) fun _ code =>
    .assessed (.graded .failed 0 code)
  have ok : rescoreEnv.store.Faultless := WorkerEnv.ofOutcome_faultless _
  exact ⟨ok, submits, R, S, T, hR, hS, hT, saved, unshared, last, quiet,
    unshared_rescore_kept keeps ok submits hR hS hT saved unshared last quiet⟩

/-- All is quiet after the events and the only rescore with code for `id` was accepted, but its code
is not what is stored. -/
def Loses (env : WorkerEnv σ τ) (find : τ → Uuid → Option Submission) (S : System σ τ)
    (events : List Event) (id : Uuid) (code : String) : Prop :=
  ∃ T r, S.run env events = some T ∧ T.Quiet ∧ S.along env (System.replaces id) events = [code] ∧
    (∃ t ∈ T.tasks, t.request = .rescore id (some code) ∧ t.call.result? = some .done) ∧
    find T.worker.store id = some r ∧ r.code ≠ code

theorem loses_of_run (saved : S.along env (replaces id) events = [code])
    (goes : (S.run env events).any (fun T => decide T.Quiet &&
      T.tasks.any (fun t =>
        decide (t.request = .rescore id (some code) ∧ t.call.result? = some .done)) &&
      (find T.worker.store id).any (·.code ≠ code)) = true) : S.Loses env find events id code := by
  obtain ⟨T, hT, goes⟩ := (Option.any_eq_true _ _).mp goes
  simp only [Bool.and_eq_true, decide_eq_true_eq, List.any_eq_true, Option.any_eq_true] at goes
  obtain ⟨⟨quiet, task⟩, r, stored, other⟩ := goes
  exact ⟨T, r, hT, quiet, saved, task, stored, other⟩

def lostToConsumer : List Event :=
  Request.start.events 0 1 ++ (Request.enqueue ⟨1⟩).events 1 2 ++
    List.replicate 3 (.consumer 0) ++ (Request.rescore ⟨1⟩ (some "two")).events 2 5 ++
    .consumer 0 :: .wait 5 :: List.replicate 6 (.consumer 0)

/-- A rescore without code has loaded the record when new code is saved, and saves it afterwards. -/
def lostToCall : List Event :=
  Request.start.events 0 1 ++ (Request.rescore ⟨1⟩ none).events 1 2 ++
    (Request.rescore ⟨1⟩ (some "two")).events 2 5 ++ List.replicate 3 (.call 1) ++
    List.replicate 4 (.consumer 0) ++ .wait 5 :: List.replicate 6 (.consumer 0)

/-- If somebody else has the record in hand, the new code may be lost though nothing fails. -/
theorem shared_rescore_lost :
    rescoreEnv.store.Faultless ∧ ∀ events ∈ [lostToConsumer, lostToCall],
      (∀ s, .request (.submit s) ∉ events) ∧
        (fresh () rescoreStore 0).Loses rescoreEnv CountedStore.find? events ⟨1⟩ "two" := by
  refine ⟨WorkerEnv.ofOutcome_faultless _, fun events he => ?_⟩
  obtain rfl | rfl : events = lostToConsumer ∨ events = lostToCall := by simpa using he
  · refine ⟨fun s hs => ?_, loses_of_run (by decide +kernel) (by decide +kernel)⟩
    simp [lostToConsumer, Request.events] at hs
  · refine ⟨fun s hs => ?_, loses_of_run (by decide +kernel) (by decide +kernel)⟩
    simp [lostToCall, Request.events] at hs

end System

end FixGrader
