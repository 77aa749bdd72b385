import FixGrader.Proofs.Worker.Records
import FixGrader.Service.Serving

namespace FixGrader

/-- What a pass of a scoring service may come to. Analysis and sandbox may answer what they like, or
break. -/
inductive ScorePolicy.Yields (p : ScorePolicy) (slug code : String) : PassOutcome → Prop
  | assessed (issues : List Issue) (sandbox : Option (Except Failure SandboxOutcome)) :
      Yields p slug code (.assessed (Scoring.merge p (p.evaluate slug code) issues sandbox))
  | broke (text : Option String) : Yields p slug code (.broke text)

theorem ScoringService.pass_yields (service : ScoringService Work) (t : Trace) (time : Nat)
    (s : Submission) : service.policy.Yields s.slug s.code (service.pass t time s).1 := by
  simp only [pass, score, StateT.run, bind, StateT.bind]
  cases service.sandbox with
  | none => exact .assessed _ _
  | some check => exact .assessed _ _

theorem ScorePolicy.status_evaluate (p : ScorePolicy) (slug code : String) :
    (p.evaluate slug code).status ≠ .running ∧
      ((p.evaluate slug code).status = .pending → (p.evaluate slug code).score = none) := by
  unfold evaluate
  split
  · unfold grade
    split <;> exact ⟨nofun, nofun⟩
  · exact ⟨nofun, fun _ => rfl⟩

theorem ScorePolicy.Yields.status {p : ScorePolicy} {slug code : String} {a : Assessment}
    (h : p.Yields slug code (.assessed a)) :
    a.status ≠ .running ∧ (a.status = .pending → a.score = none) := by
  obtain ⟨issues, sandbox⟩ := h
  obtain _ | _ | _ | _ | _ := sandbox
  · exact p.status_evaluate slug code
  · exact ⟨nofun, nofun⟩
  · exact p.status_evaluate slug code
  · exact ⟨nofun, nofun⟩
  · exact ⟨nofun, nofun⟩

namespace Submission

/-- The record is an error that says what went wrong. -/
structure Blames (s : Submission) (fault : String) : Prop where
  status : s.status = .error
  score : s.score = none
  feedback : s.feedback = some ("Scoring failure: " ++ fault)
  issues : s.issues = [⟨"scoring", fault, "error"⟩]

structure Shows (s : Submission) (a : Assessment) : Prop where
  status : s.status = a.status
  score : s.score = a.score
  feedback : s.feedback = a.feedback
  issues : s.issues = a.issues

/-- What a record may say when passes over a slug and a code come to `outcome` and these saves of
outcomes have failed. -/
inductive Sound (outcome : String → String → PassOutcome) (failed : List (Uuid × StoreError))
    (s : Submission) : Prop
  | undecided (live : s.status = .pending ∨ s.status = .running) (unscored : s.score = none)
  | decided {a : Assessment} (ends : outcome s.slug s.code = .assessed a)
      (terminal : s.status.isTerminal = true) (shows : s.Shows a)
  | broke {text : Option String} (ends : outcome s.slug s.code = .broke text)
      (blames : s.Blames (text.getD "scoring task panicked"))
  | unstored {e : StoreError} (failed : (s.id, e) ∈ failed)
      (blames : s.Blames s!"failed to store result: {e.message}")

/-- What a record keeps for good. -/
structure SameOrigin (s r : Submission) : Prop where
  id : s.id = r.id
  slug : s.slug = r.slug
  handle : s.handle = r.handle
  createdAt : s.createdAt = r.createdAt

end Submission

namespace Submission

variable {outcome : String → String → PassOutcome} {failed failed' : List (Uuid × StoreError)}
  {s : Submission}

theorem blames_markError (date : Instant) (s : Submission) (fault : String) :
    (s.markError date fault).Blames fault := ⟨rfl, rfl, rfl, rfl⟩

theorem Sound.mono (h : s.Sound outcome failed) (more : failed ⊆ failed') :
    s.Sound outcome failed' := by
  cases h with
  | undecided live unscored => exact .undecided live unscored
  | decided ends terminal shows => exact .decided ends terminal shows
  | broke ends blames => exact .broke ends blames
  | unstored lost blames => exact .unstored (more lost) blames

theorem Sound.unscored (h : s.Sound outcome failed) (live : s.status.isTerminal = false) :
    s.score = none := by
  cases h with
  | undecided _ unscored => exact unscored
  | decided _ terminal => simp [terminal] at live
  | broke _ blames | unstored _ blames => exact blames.score

theorem sound_concluded {p : ScorePolicy} (date : Instant)
    (running : s.status = .running)
    (yields : p.Yields s.slug s.code (outcome s.slug s.code)) :
    (Worker.concluded date s (outcome s.slug s.code)).Sound outcome failed := by
  cases ends : outcome s.slug s.code with
  | broke text => exact .broke ends (blames_markError _ _ _)
  | assessed a =>
    rw [ends] at yields
    obtain ⟨moves, unscored⟩ := yields.status
    have ok : s.status.canBecome a.status = true := by
      rw [running]
      exact Status.running_canBecome_iff.mpr moves
    simp only [Worker.concluded, ok, if_true]
    cases terminal : a.status.isTerminal with
    | true => exact .decided ends terminal ⟨rfl, rfl, rfl, rfl⟩
    | false =>
      have pending : a.status = .pending := by
        cases hs : a.status <;> simp_all [Status.isTerminal]
      exact .undecided (.inl pending) (unscored pending)

theorem SameOrigin.of_concluded {r : Submission} (date : Instant) (outcome : PassOutcome)
    (h : s.SameOrigin r) : (Worker.concluded date s outcome).SameOrigin r := by
  unfold Worker.concluded
  split
  · split <;> exact ⟨h.id, h.slug, h.handle, h.createdAt⟩
  · exact ⟨h.id, h.slug, h.handle, h.createdAt⟩

end Submission

def Stage.UnderWay (outcome : String → String → PassOutcome) : Stage → Prop
  | marking s => s.status = .running
  | scoring s o _ => s.status = .running ∧ o = outcome s.slug s.code
  | _ => True

namespace Worker

variable {σ τ : Type} {env : WorkerEnv σ τ} {w w' : Worker σ τ} {i : Nat}
  {outcome : String → String → PassOutcome}

theorem Turn.underWay (passes : ∀ st t s, (env.pass st t s).1 = outcome s.slug s.code)
    (h : Turn env w i w') (u : ∀ stage, w.consumers[i]? = some stage → stage.UnderWay outcome)
    {stage : Stage} (at_ : w'.consumers[i]? = some stage) : stage.UnderWay outcome := by
  cases h with
  | take =>
    cases stage_of_enter at_
    rfl
  | pass before _ ends =>
    cases stage_of_enter at_
    have marked := u _ before
    exact ⟨marked, by rw [← passes, ends]⟩
  | _ =>
    cases stage_of_enter at_
    trivial

end Worker

namespace System

variable {σ τ : Type} {env : WorkerEnv σ τ} {S T : System σ τ} {e : Event}
  {find : τ → Uuid → Option Submission} {outcome : String → String → PassOutcome}
  {P Q : Submission → Prop}

/-- The records that an event fails to save, with the reason. -/
def failures (env : WorkerEnv σ τ) (S : System σ τ) (e : Event) : List (Uuid × StoreError) :=
  (S.saving? e).toList.filterMap fun s =>
    match (env.store.save s S.worker.store).1 with
    | .error (.fails err) => some (s.id, err)
    | _ => none

theorem mem_failures {s : Submission} {err : StoreError} {store : τ} (saving : S.saving? e = some s)
    (save : env.store.save s S.worker.store = (.error (.fails err), store)) :
    (s.id, err) ∈ S.failures env e := by
  simp [failures, saving, save]

theorem Happens.underWay (passes : ∀ st t s, (env.pass st t s).1 = outcome s.slug s.code)
    (h : Happens env S e T)
    (u : ∀ (i : Nat) (stage : Stage), S.worker.consumers[i]? = some stage →
      stage.UnderWay outcome) :
    ∀ (i : Nat) (stage : Stage), T.worker.consumers[i]? = some stage →
      stage.UnderWay outcome := by
  intro i stage at_
  obtain ⟨_, before⟩ | rfl | ⟨rfl, turn⟩ := h.stage_cases at_
  · exact u i stage before
  · trivial
  · exact turn.underWay passes (u i) at_

/-- `P` holds of all records that are stored or in hand. -/
structure AllRecords (find : τ → Uuid → Option Submission) (P : Submission → Prop)
    (S : System σ τ) : Prop where
  stored : ∀ id s, find S.worker.store id = some s → P s
  copies : ∀ (i : Nat) (stage : Stage) (s : Submission), S.worker.consumers[i]? = some stage →
    stage.copy? = some s → P s
  calls : ∀ (k : Nat) (t : Task) (s : Submission), S.tasks[k]? = some t →
    t.call.copy? = some s → P s

theorem AllRecords.saving (all : S.AllRecords find P) {s : Submission}
    (saving : S.saving? e = some s) : P s := by
  cases e with
  | call k =>
    obtain ⟨t, ht, saving⟩ := Option.bind_eq_some_iff.mp saving
    refine all.calls k t s ht ?_
    rcases Call.core_of_saving saving with core | ⟨_, core⟩ <;> simp [Call.copy?, core]
  | consumer i =>
    obtain ⟨stage, hi, saving⟩ := Option.bind_eq_some_iff.mp saving
    exact all.copies i stage s hi (Stage.copy?_of_saving saving)
  | _ => cases saving

theorem Happens.allRecords (keeps : env.store.Keeps find) (h : Happens env S e T)
    (all : S.AllRecords find P) (more : ∀ s, P s → Q s)
    (mark : ∀ s date, P s → s.status = .pending → Q (s.markRunning date))
    (conclude : ∀ (i : Nat) (s : Submission) (o : PassOutcome) (due : Nat) (date : Instant), P s →
      S.worker.consumers[i]? = some (.scoring s o due) → Q (Worker.concluded date s o))
    (lose : ∀ s date err, P s → (s.id, err) ∈ S.failures env e →
      Q (s.markError date s!"failed to store result: {err.message}"))
    (reset : ∀ (t : Task) (id : Uuid) (s : Submission) (date : Instant) (code : Option String),
      P s → t ∈ S.tasks → t.call = .examine id s code → Q (s.reset date code))
    (submit : ∀ s, e = .request (.submit s) → Q s) : T.AllRecords find Q where
  stored id s stored := by
    obtain same | ⟨r, saving, update⟩ := h.find_cases keeps
    · rw [same] at stored
      exact more s (all.stored id s stored)
    · rw [update] at stored
      by_cases hid : id = r.id
      · subst hid
        simp only [Function.update_self, Option.some.injEq] at stored
        exact more s (stored ▸ all.saving saving)
      · rw [Function.update_of_ne hid] at stored
        exact more s (all.stored id s stored)
  copies i stage s at_ copy := by
    obtain ⟨_, before⟩ | rfl | ⟨rfl, turn⟩ := h.stage_cases at_
    · exact more s (all.copies i stage s before copy)
    · cases copy
    · obtain ⟨r, date, found, pending, rfl⟩ | ⟨old, before, copy⟩ | ⟨r, o, due, date, before, rfl⟩ |
          ⟨r, err, st, before, save, rfl⟩ := turn.copy_cases keeps at_ copy
      · exact mark r date (all.stored _ r found) pending
      · exact more s (all.copies i old s before copy)
      · exact conclude i r o due date (all.copies i _ r before rfl) before
      · refine lose r _ err (all.copies i _ r before rfl) (mem_failures ?_ save)
        simp [saving?, before, Stage.saving?]
  calls k t s at_ copy := by
    obtain ⟨_, before⟩ | ⟨r, rfl, _, rfl⟩ | ⟨t, rfl, before, _, turn⟩ | ended := h.task_cases at_
    · exact more s (all.calls k t s before copy)
    · cases r <;> cases copy
      exact submit s rfl
    · obtain had | found | ⟨id, r, date, code, examine, rfl⟩ := turn.copy_cases keeps copy
      · exact more s (all.calls k t s before had)
      · exact more s (all.stored s.id s found)
      · exact reset t id r date code (all.calls k t r before (by rw [examine]; rfl))
          (List.mem_of_getElem? before) examine
    · rw [ended] at copy
      cases copy

variable {service : σ} {store : τ} {clock : Nat} {events : List Event}

/-- The record has an outcome of its own code, and is the one that was stored first or that a submit
brought in. -/
structure Accounted (find : τ → Uuid → Option Submission) (outcome : String → String → PassOutcome)
    (store : τ) (events : List Event) (failed : List (Uuid × StoreError)) (s : Submission) :
    Prop where
  sound : s.Sound outcome failed
  origin : ∃ r, (find store r.id = some r ∨ .request (.submit r) ∈ events) ∧ s.SameOrigin r

theorem Accounted.of_step {failed : List (Uuid × StoreError)} {s s' : Submission}
    (h : Accounted find outcome store events failed s) (e : Event)
    (more : List (Uuid × StoreError)) (sound : s'.Sound outcome (failed ++ more))
    (same : ∀ r, s.SameOrigin r → s'.SameOrigin r) :
    Accounted find outcome store (events ++ [e]) (failed ++ more) s' := by
  obtain ⟨r, known, origin⟩ := h.origin
  exact ⟨sound, r, known.imp_right (List.mem_append_left _), same r origin⟩

theorem accounted {p : ScorePolicy} (keeps : env.store.Keeps find)
    (passes : ∀ st t s, (env.pass st t s).1 = outcome s.slug s.code)
    (yields : ∀ slug code, p.Yields slug code (outcome slug code))
    (old : ∀ id s, find store id = some s → s.status = .pending ∧ s.score = none)
    (new : ∀ s, .request (.submit s) ∈ events → s.status = .pending ∧ s.score = none)
    (h : (fresh service store clock).run env events = some S) :
    (∀ (i : Nat) (stage : Stage), S.worker.consumers[i]? = some stage → stage.UnderWay outcome) ∧
      S.AllRecords find (Accounted find outcome store events
        ((fresh service store clock).along env (failures env) events)) := by
  revert new
  refine run_induction (motive := fun events S =>
    (∀ s, .request (.submit s) ∈ events → s.status = .pending ∧ s.score = none) →
      (∀ (i : Nat) (stage : Stage), S.worker.consumers[i]? = some stage →
        stage.UnderWay outcome) ∧
      S.AllRecords find (Accounted find outcome store events
        ((fresh service store clock).along env (failures env) events))) ?_ ?_ h
  · intro _
    refine ⟨by simp [fresh], fun id s stored => ?_, by simp [fresh], by simp [fresh]⟩
    obtain ⟨pending, unscored⟩ := old id s stored
    exact ⟨.undecided (.inl pending) unscored, s,
      .inl (by rwa [keeps.named _ _ _ stored]), rfl, rfl, rfl, rfl⟩
  · intro events R e T hR ih hT new
    obtain ⟨u, all⟩ := ih fun s hs => new s (List.mem_append_left _ hs)
    have hap := happens_of_step hT
    refine ⟨hap.underWay passes u, ?_⟩
    rw [along_concat (failures env) hR]
    refine hap.allRecords keeps all (fun s h => ?_) (fun s date h pending => ?_)
      (fun i s o due date h at_ => ?_) (fun s date err h lost => ?_) (fun _ _ s date code h _ _ => ?_)
      fun s he => ?_
    · exact h.of_step e _ (h.sound.mono (List.subset_append_left _ _)) fun _ => id
    · exact h.of_step e _
        (.undecided (.inr rfl) (h.sound.unscored (by simp [pending, Status.isTerminal])))
        fun _ o => ⟨o.id, o.slug, o.handle, o.createdAt⟩
    · obtain ⟨running, rfl⟩ := u i _ at_
      exact h.of_step e _ (Submission.sound_concluded date running (yields _ _))
        fun _ o => o.of_concluded date _
    · exact h.of_step e _
        (.unstored (List.mem_append_right _ lost) (Submission.blames_markError _ _ _))
        fun _ o => ⟨o.id, o.slug, o.handle, o.createdAt⟩
    · exact h.of_step e _ (.undecided (.inl rfl) rfl) fun _ o =>
        ⟨o.id, o.slug, o.handle, o.createdAt⟩
    · have hs : .request (.submit s) ∈ events ++ [e] := by simp [he]
      obtain ⟨pending, unscored⟩ := new s hs
      exact ⟨.undecided (.inl pending) unscored, s, .inr hs, rfl, rfl, rfl, rfl⟩

/-- However a run goes, what is stored for an id has an outcome of the code that is stored with it,
and still is what it was when it came in. -/
theorem outcome_of_stored_code {p : ScorePolicy} (keeps : env.store.Keeps find)
    (passes : ∀ st t s, (env.pass st t s).1 = outcome s.slug s.code)
    (yields : ∀ slug code, p.Yields slug code (outcome slug code))
    (old : ∀ id s, find store id = some s → s.status = .pending ∧ s.score = none)
    (new : ∀ s, .request (.submit s) ∈ events → s.status = .pending ∧ s.score = none)
    (h : (fresh service store clock).run env events = some S) {id : Uuid} {s : Submission}
    (stored : find S.worker.store id = some s) :
    s.Sound outcome ((fresh service store clock).along env (failures env) events) ∧
      ∃ r, (find store r.id = some r ∨ .request (.submit r) ∈ events) ∧ s.SameOrigin r := by
  obtain ⟨_, all⟩ := accounted keeps passes yields old new h
  obtain ⟨sound, origin⟩ := all.stored id s stored
  exact ⟨sound, origin⟩

def raceService : ScoringService Work :=
  ⟨[], some fun code => pure (if code = "one" then .ok (.rejected "no") else .error ["down"]), {}⟩

def raceRecord (slug code : String) : Submission :=
  .fresh ⟨1⟩ ⟨⟨2024, 1, 1⟩, 0, 0, 0⟩ slug code none

def raceOutcome (slug code : String) : PassOutcome :=
  (raceService.pass {} 0 (raceRecord slug code)).1

def raceFault (n : Nat) : Option CallFault :=
  if n = 5 ∨ n = 6 then some (.fails (.unreachable "down")) else none

def raceEnv : WorkerEnv Trace CountedStore where
  store := .inMemory (fun _ => none) raceFault
  pass := raceService.pass
  date millis := ⟨⟨2024, 1, 1⟩, 0, 0, millis * 1000000⟩
  patience := 10

def raceStore : CountedStore :=
  { store := ⟨[raceRecord "sqli_001" "one"]⟩ }

/-- The code is replaced during a pass over it, whose outcome puts the old code back. Replaced once
more, it is scored, but the outcome cannot be stored. -/
def raceEvents : List Event :=
  Request.start.events 0 1 ++ (Request.enqueue ⟨1⟩).events 1 2 ++
    List.replicate 3 (.consumer 0) ++ (Request.rescore ⟨1⟩ (some "two")).events 2 1 ++
    .consumer 0 :: .wait 5 :: .consumer 0 :: List.replicate 4 (.call 2) ++
    List.replicate 5 (.consumer 0) ++ (Request.rescore ⟨1⟩ (some "two")).events 3 5 ++
    List.replicate 3 (.consumer 0) ++ .wait 5 :: List.replicate 4 (.consumer 0)

theorem outcome_of_stored_code_race :
    (∀ st t s, (raceEnv.pass st t s).1 = raceOutcome s.slug s.code) ∧
      (∀ id s, raceStore.find? id = some s → s.status = .pending ∧ s.score = none) ∧
      (∀ s, .request (.submit s) ∈ raceEvents → s.status = .pending ∧ s.score = none) ∧
      ∃ S s, (fresh {} raceStore 0).run raceEnv raceEvents = some S ∧
        S.worker.store.find? ⟨1⟩ = some s ∧ s.code = "two" ∧
        s.Sound raceOutcome ((fresh {} raceStore 0).along raceEnv (failures raceEnv) raceEvents) ∧
        ∃ r, (raceStore.find? r.id = some r ∨ .request (.submit r) ∈ raceEvents) ∧
          s.SameOrigin r := by
  have passes : ∀ st t s, (raceEnv.pass st t s).1 = raceOutcome s.slug s.code := fun _ _ _ => rfl
  have old : ∀ id s, raceStore.find? id = some s → s.status = .pending ∧ s.score = none := by
    intro id s stored
    rw [CountedStore.find?, Store.find?] at stored
    obtain rfl := List.mem_singleton.mp (List.mem_of_find?_eq_some stored)
    exact ⟨rfl, rfl⟩
  have new : ∀ s, .request (.submit s) ∈ raceEvents → s.status = .pending ∧ s.score = none := by
    intro s hs
    simp [raceEvents, Request.events] at hs
  have goes : ((fresh {} raceStore 0).run raceEnv raceEvents).any (fun S =>
      (S.worker.store.find? ⟨1⟩).any (·.code == "two")) = true := by decide +kernel
  obtain ⟨S, hS, goes⟩ := (Option.any_eq_true _ _).mp goes
  obtain ⟨s, stored, code⟩ := (Option.any_eq_true _ _).mp goes
  have keeps : raceEnv.store.Keeps CountedStore.find? :=
    StoreAccess.inMemory_keeps (fun _ => none) raceFault
  exact ⟨passes, old, new, S, s, hS, stored, by simpa using code,
    outcome_of_stored_code keeps passes
      (fun slug code => raceService.pass_yields {} 0 (raceRecord slug code)) old new hS stored⟩

end System

end FixGrader
