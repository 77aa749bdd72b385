import FixGrader.Proofs.Worker.Rescore

namespace FixGrader

def Assessment.ofFault (fault : String) : Assessment where
  status := .error
  feedback := some ("Scoring failure: " ++ fault)
  issues := [⟨"scoring", fault, "error"⟩]

def PassOutcome.recorded : PassOutcome → Assessment
  | assessed a =>
    if Status.running.canBecome a.status then a
    else .ofFault s!"invalid status transition to {a.status.name}"
  | broke text => .ofFault (text.getD "scoring task panicked")

namespace Submission

variable (outcome : String → String → PassOutcome) (s : Submission)

theorem markError_eq_apply (date : Instant) (fault : String) :
    s.markError date fault = s.apply date (.ofFault fault) := rfl

theorem concluded_eq_apply (date date' : Instant) (o : PassOutcome) :
    Worker.concluded date (s.markRunning date') o = s.apply date o.recorded := by
  unfold Worker.concluded PassOutcome.recorded
  cases o with
  | assessed a =>
    by_cases moves : Status.running.canBecome a.status
    · simp only [markRunning, moves, if_true, apply]
    · simp only [markRunning, moves, apply, markError_eq_apply]
      rfl
  | broke => rfl

/-- The record without the date of its last change. -/
def undated : Submission := { s with updatedAt := s.createdAt }

/-- What the worker makes of a record, up to that date. -/
def settled : Submission :=
  if s.status = .pending then s.apply s.createdAt (outcome s.slug s.code).recorded else s.undated

variable {s}

theorem settled_of_pending (due : s.status = .pending) :
    s.settled outcome = s.apply s.createdAt (outcome s.slug s.code).recorded := if_pos due

theorem settled_of_ne (decided : s.status ≠ .pending) : s.settled outcome = s.undated :=
  if_neg decided

variable (s)

theorem settled_undated : s.undated.settled outcome = s.settled outcome := rfl

theorem settled_settled : (s.settled outcome).settled outcome = s.settled outcome := by
  by_cases due : s.status = .pending
  · rw [settled_of_pending outcome due]
    by_cases again : (outcome s.slug s.code).recorded.status = .pending
    · exact settled_of_pending outcome again
    · exact settled_of_ne outcome again
  · rw [settled_of_ne outcome due]
    exact settled_of_ne outcome due

variable {s}

theorem status_settled_of_ungraded (due : s.status = .pending) {a : Assessment}
    (ends : outcome s.slug s.code = .assessed a) (ungraded : a.status = .pending) :
    (s.settled outcome).status = .pending := by
  have moves : Status.running.canBecome a.status = true := by
    rw [ungraded]
    exact Status.canBecome_pending .running
  rw [settled_of_pending outcome due, ends, PassOutcome.recorded, if_pos moves]
  exact ungraded

end Submission

namespace Worker

variable {σ τ : Type} {env : WorkerEnv σ τ} {find : τ → Uuid → Option Submission}

theorem load_eq (keeps : env.store.Keeps find) (ok : env.store.Faultless) (id : Uuid) (st : τ) :
    ∃ st', env.store.load id st = (.ok (find st id), st') ∧ find st' = find st := by
  rcases h : env.store.load id st with ⟨f | s, st'⟩
  · exact absurd (congrArg Prod.fst h) (ok.load _ _ _)
  · rw [eq_of_load keeps h]
    exact ⟨st', rfl, find_of_load keeps h⟩

theorem save_eq (keeps : env.store.Keeps find) (ok : env.store.Faultless) (s : Submission)
    (st : τ) : ∃ st', env.store.save s st = (.ok (), st') ∧
      find st' = Function.update (find st) s.id (some s) := by
  rcases h : env.store.save s st with ⟨f | ⟨⟩, st'⟩
  · exact absurd (congrArg Prod.fst h) (ok.save _ _ _)
  · exact ⟨st', rfl, find_of_save keeps h⟩

end Worker

namespace Desk

variable {σ τ : Type} {env : WorkerEnv σ τ} {find : τ → Uuid → Option Submission}
  {outcome : String → String → PassOutcome}

/-- What work on an id comes to if nothing goes wrong. -/
inductive Processed (env : WorkerEnv σ τ) (find : τ → Uuid → Option Submission)
    (outcome : String → String → PassOutcome) (d : Desk σ τ) (id : Uuid) (d' : Desk σ τ) : Prop
  | skipped (idle : ∀ s, find d.store id = some s → s.status ≠ .pending)
      (service : d'.service = d.service) (store : find d'.store = find d.store)
  | scored {s r : Submission} {time : Nat} {date : Instant} (found : find d.store id = some s)
      (due : s.status = .pending) (same : r.id = id)
      (service : d'.service = (env.pass d.service time r).2.2)
      (store : find d'.store = Function.update (find d.store) id
        (some (s.apply date (outcome s.slug s.code).recorded)))

theorem concluded (keeps : env.store.Keeps find) (ok : env.store.Faultless) (d : Desk σ τ)
    (s : Submission) (o : PassOutcome) : (d.conclude env s o).service = d.service ∧
      ∃ date, find (d.conclude env s o).store =
        Function.update (find d.store) s.id (some (Worker.concluded date s o)) := by
  obtain ⟨st, save, stored⟩ :=
    Worker.save_eq keeps ok (Worker.concluded (env.date d.now) s o) d.store
  rw [Worker.concluded_id] at stored
  simp only [conclude, persist, Desk.save, save]
  exact ⟨trivial, _, stored⟩

/-- A record that is marked as running is scored and its outcome is saved over the mark. -/
theorem marked (keeps : env.store.Keeps find) (ok : env.store.Faultless)
    (passes : ∀ v time s, (env.pass v time s).1 = outcome s.slug s.code) (d : Desk σ τ)
    (s : Submission) : (d.mark env s).service = (env.pass d.service d.now s).2.2 ∧
      ∃ date, find (d.mark env s).store = Function.update (find d.store) s.id
        (some (Worker.concluded date s (outcome s.slug s.code))) := by
  obtain ⟨st, save, stored⟩ := Worker.save_eq keeps ok s d.store
  have saved : d.save env s = (.ok (), ⟨d.service, st, d.readings.tail⟩) := by
    simp only [Desk.save, save]
  rw [mark_eq saved rfl, passes]
  obtain ⟨kept, date, written⟩ := concluded keeps ok
    ⟨(env.pass d.service d.now s).2.2, st, d.readings.tail⟩ s (outcome s.slug s.code)
  exact ⟨kept, date, by rw [written, stored, Function.update_idem]⟩

theorem processed (keeps : env.store.Keeps find) (ok : env.store.Faultless)
    (passes : ∀ v time s, (env.pass v time s).1 = outcome s.slug s.code) (d : Desk σ τ)
    (id : Uuid) : d.Processed env find outcome id (d.process env id) := by
  obtain ⟨st, load, same⟩ := Worker.load_eq keeps ok id d.store
  cases found : find d.store id with
  | none =>
    rw [found] at load
    refine .skipped (fun s hs => ?_) ?_ ?_
    · rw [found] at hs
      cases hs
    · simp only [process, Desk.load, load]
    · simp only [process, Desk.load, load, same]
  | some s =>
    rw [found] at load
    by_cases due : s.status = .pending
    · have hid : s.id = id := keeps.named _ _ _ found
      have work : d.process env id = Desk.mark env ⟨d.service, st, d.readings.tail⟩
          (s.markRunning (env.date d.now)) := by
        simp only [process, Desk.load, load, Status.canBecome_running_iff.mpr due, reduceIte]
      obtain ⟨service, date, store⟩ := marked keeps ok passes ⟨d.service, st, d.readings.tail⟩
        (s.markRunning (env.date d.now))
      have named : (s.markRunning (env.date d.now)).id = id := hid
      rw [Submission.concluded_eq_apply, same, named] at store
      exact work ▸ .scored found due named service store
    · have other := mt Status.canBecome_running_iff.mp due
      refine .skipped (fun r hr => ?_) ?_ ?_
      · rw [found] at hr
        exact Option.some.inj hr ▸ due
      · simp only [process, Desk.load, load, other, Bool.false_eq_true, reduceIte]
      · simp only [process, Desk.load, load, other, Bool.false_eq_true, reduceIte, same]

/-- The records of a store up to the dates of their last changes. -/
def view (find : τ → Uuid → Option Submission) (st : τ) (id : Uuid) : Option Submission :=
  (find st id).map Submission.undated

theorem Processed.view_eq {d d' : Desk σ τ} {id : Uuid}
    (h : d.Processed env find outcome id d') (j : Uuid) :
    view find d'.store j =
      if j = id then (view find d.store j).map (Submission.settled outcome)
      else view find d.store j := by
  cases h with
  | skipped idle _ store =>
    split
    next same =>
      subst same
      cases found : find d.store j with
      | none => simp [view, store, found]
      | some s =>
        have kept := Submission.settled_of_ne outcome (idle s found)
        simp [view, store, found, Submission.settled_undated, kept]
    · rw [view, view, store]
  | scored found due _ _ store =>
    split
    next same =>
      subst same
      have taken := Submission.settled_of_pending outcome due
      simp [view, store, found, Submission.settled_undated, taken]
      rfl
    next other => rw [view, view, store, Function.update_of_ne other]

theorem view_processAll (keeps : env.store.Keeps find) (ok : env.store.Faultless)
    (passes : ∀ v time s, (env.pass v time s).1 = outcome s.slug s.code) (d : Desk σ τ)
    (ids : List Uuid) (j : Uuid) : view find (d.processAll env ids).store j =
      if j ∈ ids then (view find d.store j).map (Submission.settled outcome)
      else view find d.store j := by
  induction ids using List.reverseRecOn with
  | nil => simp [processAll]
  | append_singleton ids id ih =>
    rw [processAll_concat, (processed keeps ok passes _ id).view_eq, ih]
    -- Work on an id that has come before finds its record settled, and settling it again is nothing.
    by_cases last : j = id
    · subst last
      by_cases before : j ∈ ids <;>
        simp [before, Function.comp_def, Submission.settled_settled]
    · simp [last]

/-- The service remembers the ids that it has scored. -/
def Logs (env : WorkerEnv σ τ) (log : σ → List Uuid) : Prop :=
  ∀ v time s, log (env.pass v time s).2.2 = log v ++ [s.id]

theorem Processed.log_eq {log : σ → List Uuid} (logs : Logs env log) {d d' : Desk σ τ} {id : Uuid}
    (h : d.Processed env find outcome id d') : log d'.service =
      log d.service ++ if (view find d.store id).any (·.status = .pending) then [id] else [] := by
  cases h with
  | skipped idle service =>
    rw [service, if_neg, List.append_nil]
    intro due
    obtain ⟨r, hr, due⟩ := (Option.any_eq_true _ _).mp due
    obtain ⟨s, found, rfl⟩ := Option.map_eq_some_iff.mp hr
    exact idle s found (of_decide_eq_true due)
  | scored found due same service =>
    have taken : (view find d.store id).any (·.status = .pending) = true := by
      simp [view, found, Submission.undated, due]
    rw [service, logs, same, if_pos taken]

end Desk

/-- How often a record is scored whose id is sent `n` times. -/
def Submission.rounds (outcome : String → String → PassOutcome) (s : Submission) (n : Nat) : Nat :=
  if s.status ≠ .pending then 0
  else if (s.settled outcome).status = .pending then n
  else min n 1

theorem Submission.rounds_of_pending {outcome : String → String → PassOutcome} {s : Submission}
    (due : s.status = .pending) (again : (s.settled outcome).status = .pending) (n : Nat) :
    s.rounds outcome n = n := by
  rw [rounds, if_neg (not_not.mpr due), if_pos again]

theorem Submission.rounds_succ (outcome : String → String → PassOutcome) (s : Submission)
    (n : Nat) : s.rounds outcome (n + 1) = s.rounds outcome n +
      if (if n = 0 then s else s.settled outcome).status = .pending then 1 else 0 := by
  unfold rounds
  by_cases due : s.status = .pending
  · by_cases again : (s.settled outcome).status = .pending <;> by_cases first : n = 0 <;>
      simp [due, again, first]
    omega
  · have decided : (s.settled outcome).status ≠ .pending := by
      rw [settled_of_ne outcome due]
      exact due
    by_cases first : n = 0 <;> simp [due, decided, first]

namespace Desk

variable {σ τ : Type} {env : WorkerEnv σ τ} {find : τ → Uuid → Option Submission}
  {outcome : String → String → PassOutcome} {log : σ → List Uuid}

theorem count_log (keeps : env.store.Keeps find) (ok : env.store.Faultless)
    (passes : ∀ v time s, (env.pass v time s).1 = outcome s.slug s.code) (logs : Logs env log)
    (d : Desk σ τ) (ids : List Uuid) {j : Uuid} {s : Submission}
    (stored : view find d.store j = some s) :
    (log (d.processAll env ids).service).count j =
      (log d.service).count j + s.rounds outcome (ids.count j) := by
  induction ids using List.reverseRecOn with
  | nil => simp [processAll, Submission.rounds]
  | append_singleton ids id ih =>
    have step := processed keeps ok passes (d.processAll env ids) id
    rw [processAll_concat, step.log_eq logs, List.count_append, ih, List.count_append]
    by_cases last : id = j
    · subst last
      have now : view find (d.processAll env ids).store id =
          some (if ids.count id = 0 then s else s.settled outcome) := by
        rw [view_processAll keeps ok passes, stored]
        by_cases before : id ∈ ids <;> simp [before, List.count_eq_zero]
      rw [now, List.count_singleton_self, Submission.rounds_succ, Nat.add_assoc]
      by_cases due : (if ids.count id = 0 then s else s.settled outcome).status = .pending <;>
        simp [due]
    · have none_ : ∀ b : Bool, (if b = true then [id] else []).count j = 0 := by
        rintro (_ | _) <;> simp [last]
      rw [none_, List.count_singleton, if_neg (by simpa using last)]
      rfl

end Desk

end FixGrader
