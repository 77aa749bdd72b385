import FixGrader.Proofs.Worker.Ledger
import FixGrader.Proofs.Worker.Rescore

namespace FixGrader

def Stage.subject? : Stage → Option Uuid
  | loading id => some id
  | stage => stage.copy?.map (·.id)

/-- A consumer at this stage has set the mark for the id that it took, and not taken it back. -/
def Stage.leavesMark (stage : Stage) : Bool := stage.works || stage == .dead

/-- The consumer and the id, where the next mark is that an id is taken. -/
def Mark.take? : Mark → Option (Nat × Uuid)
  | took i (.score id) => some (i, id)
  | _ => none

def Mark.lastTake (marks : List Mark) : Option (Nat × Uuid) := (marks.filterMap take?).getLast?

@[simp] theorem Mark.lastTake_took_score (marks : List Mark) (i : Nat) (id : Uuid) :
    lastTake (marks ++ [took i (.score id)]) = some (i, id) := by
  simp [lastTake, take?]

@[simp] theorem Mark.lastTake_took_stop (marks : List Mark) (i : Nat) :
    lastTake (marks ++ [took i .stop]) = lastTake marks := by
  simp [lastTake, take?]

@[simp] theorem Mark.lastTake_acknowledged (marks : List Mark) (i : Nat) :
    lastTake (marks ++ [acknowledged i]) = lastTake marks := by
  simp [lastTake, take?]

theorem Stage.works_of_subject {stage : Stage} {id : Uuid} (h : stage.subject? = some id) :
    stage.works = true := by
  cases stage <;> first | rfl | cases h

theorem Stage.leavesMark_of_works {stage : Stage} (h : stage.works = true) :
    stage.leavesMark = true := by
  rw [Stage.leavesMark, h, Bool.true_or]

section

variable {α : Type} {l : List α} {i : Nat} {a b : α} {p : α → Bool}

theorem any_getElem?_set (at_ : l[i]? = some a) (same : p b = p a) (j : Nat) :
    ((l.set i b)[j]?).any p = (l[j]?).any p := by
  by_cases hij : i = j
  · subst hij
    rw [List.getElem?_set_self', at_]
    exact same
  · rw [List.getElem?_set_ne hij]

theorem any_getElem?_concat (none_ : p a = false) (j : Nat) :
    ((l ++ [a])[j]?).any p = (l[j]?).any p := by
  rw [List.getElem?_append]
  split
  · rfl
  · have out : l[j]? = none := List.getElem?_eq_none (by omega)
    rw [out]
    cases j - l.length <;> simp [none_]

end

namespace Worker

variable {σ τ : Type} {env : WorkerEnv σ τ} {w w' : Worker σ τ} {i : Nat} {c c' : Call}
  {find : τ → Uuid → Option Submission}

/-- Some consumer is at work on the id. -/
def WorksOn (w : Worker σ τ) (id : Uuid) : Prop :=
  ∃ stage ∈ w.consumers, stage.subject? = some id

instance (w : Worker σ τ) (id : Uuid) : Decidable (w.WorksOn id) :=
  inferInstanceAs (Decidable (∃ stage ∈ w.consumers, stage.subject? = some id))

theorem Turn.subject (keeps : env.store.Keeps find) (h : Turn env w i w') {old new : Stage}
    (at_ : w.consumers[i]? = some old) (works : old.works = true)
    (now : w'.consumers[i]? = some new) (works' : new.works = true) :
    new.subject? = old.subject? := by
  cases h with
  | letIn at_' | begin at_' =>
    cases at_.symm.trans at_'
    cases works
  | halt | loadBreaks | loadFails | missing | skip | saveBreaks | markFails | stored | giveUpFails
  | acknowledge =>
    cases stage_of_enter now
    cases works'
  | @take id s _ at_' load =>
    cases at_.symm.trans at_'
    cases stage_of_enter now
    have named : s.id = id := keeps.named _ _ _ (eq_of_load keeps load)
    exact congrArg some named
  | conclude at_' =>
    cases at_.symm.trans at_'
    cases stage_of_enter now
    exact congrArg some (concluded_id ..)
  | pass at_' | storeFails at_' | retryFails at_' =>
    cases at_.symm.trans at_'
    cases stage_of_enter now
    rfl

theorem step_rescore {id : Uuid} {code : Option String} {s : Submission} {store : τ}
    (load : env.store.load id w.store = (.ok (some s), store)) :
    w.step env (.rescore id code) = some ({ w with store }, .examine id s code) := by
  simp [step, Worker.load, load]

theorem step_examine {id : Uuid} {s : Submission} (code : Option String)
    (free : ¬(s.status = .running ∧ w.inFlight = some id)) :
    w.step env (.examine id s code) = some (w, .restore id (s.reset (env.date w.clock) code)) := by
  simp [step, free]

theorem saveFor_ok {s : Submission} {store : τ} (save : env.store.save s w.store = (.ok (), store))
    (next : Call) : w.saveFor env s next = ({ w with store }, next) := by
  simp [saveFor, Worker.save, save]

theorem saveFor_error {s : Submission} {f : CallFault} {store : τ}
    (save : env.store.save s w.store = (.error f, store)) (next : Call) :
    w.saveFor env s next = ({ w with store }, .fault f) := by
  simp [saveFor, Worker.save, save]

theorem CallTurn.inFlight (h : CallTurn env w c w' c') : w'.inFlight = w.inFlight := by
  cases h with
  | start =>
    unfold Worker.start
    split <;> rfl
  | _ => rfl

end Worker

namespace System

variable {σ τ : Type} {env : WorkerEnv σ τ} {S T : System σ τ} {e : Event} {events : List Event}
  {service : σ} {store : τ} {clock : Nat} {find : τ → Uuid → Option Submission}
  {marks : List Mark} {id : Uuid}

/-- The id that was taken last is marked until the consumer that took it is done with it, and no
consumer is at work on another one. -/
structure Marked (S : System σ τ) (take : Option (Nat × Uuid)) : Prop where
  mark : S.worker.inFlight =
    (take.filter fun p => (S.worker.consumers[p.1]?).any Stage.leavesMark).map Prod.snd
  subject : ∀ (i : Nat) (stage : Stage), S.worker.consumers[i]? = some stage →
    stage.works = true → ∃ id, take = some (i, id) ∧ stage.subject? = some id

theorem Marked.of_rests {take : Option (Nat × Uuid)} (m : S.Marked take) {i : Nat}
    {old new : Stage} (at_ : S.worker.consumers[i]? = some old)
    (set : T.worker.consumers = S.worker.consumers.set i new)
    (inFlight : T.worker.inFlight = S.worker.inFlight) (same : new.leavesMark = old.leavesMark)
    (rests : new.works = false) : T.Marked take where
  mark := by simp only [set, any_getElem?_set at_ same, inFlight, m.mark]
  subject j stage hj works := by
    rw [set] at hj
    obtain ⟨_, rfl⟩ | ⟨_, hj⟩ := getElem?_set_cases hj
    · simp [rests] at works
    · exact m.subject j stage hj works

theorem Marked.of_turn (keeps : env.store.Keeps find) (one : S.worker.OneHasQueue) {i : Nat}
    {w : Worker σ τ} (m : S.Marked (Mark.lastTake marks)) (turn : S.worker.Turn env i w) :
    Marked ⟨w, S.tasks⟩ (Mark.lastTake (marks ++ S.worker.marks i)) := by
  cases turn.deal with
  | enters at_ set _ unmarked _ _ inFlight =>
    rw [unmarked, List.append_nil]
    exact m.of_rests at_ set inFlight rfl rfl
  | halts at_ set marked _ _ inFlight =>
    rw [marked, Mark.lastTake_took_stop]
    exact m.of_rests at_ set inFlight rfl rfl
  | acknowledges at_ set marked _ _ inFlight =>
    rw [marked, Mark.lastTake_acknowledged]
    exact m.of_rests at_ set inFlight rfl rfl
  | dies at_ set works unmarked _ _ inFlight =>
    rw [unmarked, List.append_nil]
    exact m.of_rests at_ set inFlight (Stage.leavesMark_of_works works).symm rfl
  | returns at_ set works unmarked _ _ inFlight =>
    rw [unmarked, List.append_nil]
    -- The consumer is the one that took an id last, so no mark is left.
    obtain ⟨id, taken, _⟩ := m.subject i _ at_ works
    rw [taken]
    refine ⟨?_, fun j stage hj works' => ?_⟩
    · simp only [inFlight, Option.filter_some, Worker.stage_of_set at_ set]
      rfl
    · simp only [set] at hj
      obtain ⟨_, rfl⟩ | ⟨ne, hj⟩ := getElem?_set_cases hj
      · cases works'
      · obtain ⟨_, taken', _⟩ := m.subject j stage hj works'
        cases taken.symm.trans taken'
        exact absurd rfl ne
  | @goesOn old new at_ set works works' unmarked _ _ inFlight =>
    rw [unmarked, List.append_nil]
    have same : new.leavesMark = old.leavesMark :=
      (Stage.leavesMark_of_works works').trans (Stage.leavesMark_of_works works).symm
    refine ⟨by simp only [set, any_getElem?_set at_ same, inFlight, m.mark], fun j stage hj hw => ?_⟩
    simp only [set] at hj
    obtain ⟨rfl, rfl⟩ | ⟨_, hj⟩ := getElem?_set_cases hj
    · have now : w.consumers[i]? = some stage := Worker.stage_of_set at_ set
      rw [turn.subject keeps at_ works now hw]
      exact m.subject i old at_ works
    · exact m.subject j stage hj hw
  | @takes id at_ set marked _ _ inFlight =>
    rw [marked, Mark.lastTake_took_score]
    refine ⟨?_, fun j stage hj works => ?_⟩
    · simp only [inFlight, Option.filter_some, Worker.stage_of_set at_ set]
      rfl
    · simp only [set] at hj
      obtain ⟨rfl, rfl⟩ | ⟨ne, hj⟩ := getElem?_set_cases hj
      · exact ⟨id, rfl, rfl⟩
      · exact absurd (one i j _ stage at_ hj rfl (Worker.hasQueue_of_works works)) ne

theorem Marked.of_callTurn {take : Option (Nat × Uuid)} (m : S.Marked take) {w : Worker σ τ}
    {c c' : Call} (turn : S.worker.CallTurn env c w c') (tasks : List Task) :
    Marked ⟨w, tasks⟩ take := by
  rcases turn.consumers with hc | hc
  · refine ⟨?_, ?_⟩ <;> simp only [hc]
    · rw [turn.inFlight, m.mark]
    · exact m.subject
  · have none_ : Stage.waiting.leavesMark = false := rfl
    refine ⟨?_, fun i stage at_ works => ?_⟩
    · simp only [hc, any_getElem?_concat none_]
      rw [turn.inFlight, m.mark]
    · simp only [hc] at at_
      obtain at_ | ⟨_, rfl⟩ := getElem?_concat_cases at_
      · exact m.subject i stage at_ works
      · cases works

theorem Happens.marked (keeps : env.store.Keeps find) (h : Happens env S e T)
    (one : S.worker.OneHasQueue) (m : S.Marked (Mark.lastTake marks)) :
    T.Marked (Mark.lastTake (marks ++ S.marks e)) := by
  cases h with
  | request | giveUp | wait | shutdown =>
    simp only [System.marks, List.append_nil]
    exact ⟨m.mark, m.subject⟩
  | call _ turn =>
    simp only [System.marks, List.append_nil]
    exact m.of_callTurn turn _
  | consumer turn => exact m.of_turn keeps one turn

theorem marked (keeps : env.store.Keeps find)
    (h : (fresh service store clock).run env events = some S) :
    S.Marked (Mark.lastTake ((fresh service store clock).along env System.marks events)) := by
  refine run_induction (motive := fun events S =>
    S.Marked (Mark.lastTake ((fresh service store clock).along env System.marks events))) ?_ ?_ h
  · exact ⟨rfl, by simp [fresh]⟩
  · intro events R e T hR m hT
    rw [along_concat System.marks hR]
    exact (happens_of_step hT).marked keeps (oneHasQueue hR) m

/-- The last id that was taken is this one, and the consumer that took it is dead. -/
def Forsaken (S : System σ τ) (marks : List Mark) (id : Uuid) : Prop :=
  ∃ i, Mark.lastTake marks = some (i, id) ∧ S.worker.consumers[i]? = some .dead

theorem Marked.inFlight_iff (m : S.Marked (Mark.lastTake marks)) :
    S.worker.inFlight = some id ↔ S.worker.WorksOn id ∨ S.Forsaken marks id := by
  rw [m.mark]
  constructor
  · intro marked
    obtain ⟨⟨i, id⟩, taken, rfl⟩ := Option.map_eq_some_iff.mp marked
    obtain ⟨taken, leaves⟩ := Option.filter_eq_some_iff.mp taken
    obtain ⟨stage, at_, leaves⟩ := (Option.any_eq_true _ _).mp leaves
    obtain works | dead : stage.works = true ∨ stage = .dead := by
      simpa [Stage.leavesMark] using leaves
    · obtain ⟨_, taken', subject⟩ := m.subject i stage at_ works
      cases taken.symm.trans taken'
      exact .inl ⟨stage, List.mem_of_getElem? at_, subject⟩
    · exact .inr ⟨i, taken, dead ▸ at_⟩
  · rintro (⟨stage, mem, subject⟩ | ⟨i, taken, dead⟩)
    · obtain ⟨i, at_⟩ := List.getElem?_of_mem mem
      have works := Stage.works_of_subject subject
      obtain ⟨_, taken, subject'⟩ := m.subject i stage at_ works
      cases subject.symm.trans subject'
      simp [taken, at_, Stage.leavesMark_of_works works]
    · simp [taken, dead, Stage.leavesMark]

theorem run_last {w w' : Worker σ τ} {c c' : Call} (goes : w.step env c = some (w', c'))
    (tasks : List Task) (r : Request) (n : Nat) :
    run env ⟨w, tasks ++ [⟨r, c⟩]⟩ (List.replicate (n + 1) (.call tasks.length)) =
      run env ⟨w', tasks ++ [⟨r, c'⟩]⟩ (List.replicate n (.call tasks.length)) := by
  simp [run, step, List.replicate_succ, goes, setCall]

theorem run_events (S : System σ τ) (r : Request) (n : Nat) :
    S.run env (r.events S.tasks.length n) =
      run env ⟨S.worker, S.tasks ++ [⟨r, r.call⟩]⟩ (List.replicate n (.call S.tasks.length)) :=
  rfl

/-- What the check of a rescore sees, whatever has happened since the record was loaded. -/
theorem examine_refuses_iff (keeps : env.store.Keeps find)
    (h : (fresh service store clock).run env events = some S) (s : Submission)
    (code : Option String) :
    S.worker.step env (.examine id s code) =
        some (S.worker, .over (.refused (.notMovable id .running .pending))) ↔
      s.status = .running ∧ (S.worker.WorksOn id ∨
        S.Forsaken ((fresh service store clock).along env System.marks events) id) := by
  rw [← (marked keeps h).inFlight_iff]
  by_cases refused : s.status = .running ∧ S.worker.inFlight = some id <;>
    simp [Worker.step, refused]

theorem run_rescore {s : Submission} {store' store'' : τ} (code : Option String)
    (load : env.store.load id S.worker.store = (.ok (some s), store'))
    (free : ¬(s.status = .running ∧ S.worker.inFlight = some id))
    (save : env.store.save (s.reset (env.date S.worker.clock) code) store' = (.ok (), store'')) :
    S.run env ((Request.rescore id code).events S.tasks.length 5) =
      some ⟨{ S.worker with
        store := store''
        pending := S.worker.pending + 1
        queue := S.worker.queue ++ [.score id] },
        S.tasks ++ [⟨.rescore id code, .over .done⟩]⟩ := by
  have restores : Worker.step env { S.worker with store := store' }
      (.restore id (s.reset (env.date S.worker.clock) code)) =
        some ({ S.worker with store := store'' }, .enqueue id (.over .done)) :=
    congrArg some (Worker.saveFor_ok save _)
  -- The last two steps count the id and send it.
  rw [run_events, Request.call, run_last (Worker.step_rescore load),
    run_last (Worker.step_examine (w := { S.worker with store := store' }) code free),
    run_last restores, run_last rfl, run_last rfl]
  rfl

theorem run_rescore_refused {s : Submission} {store' : τ} (code : Option String)
    (load : env.store.load id S.worker.store = (.ok (some s), store'))
    (running : s.status = .running) (busy : S.worker.inFlight = some id) :
    S.run env ((Request.rescore id code).events S.tasks.length 2) =
      some ⟨{ S.worker with store := store' }, S.tasks ++
        [⟨.rescore id code, .over (.refused (.notMovable id .running .pending))⟩]⟩ := by
  have refuses : Worker.step env { S.worker with store := store' } (.examine id s code) =
      some ({ S.worker with store := store' },
        .over (.refused (.notMovable id .running .pending))) := by
    simp [Worker.step, running, busy]
  rw [run_events, Request.call, run_last (Worker.step_rescore load), run_last refuses]
  rfl

/-- A running record is refused if a consumer is at work on it, or if the consumer that took an id
last took this one and is dead. Otherwise a rescore goes through, as far as the store works. The
check of a rescore that has loaded a record before goes by the same rule. -/
theorem running_rescore (keeps : env.store.Keeps find)
    (h : (fresh service store clock).run env events = some S) {s : Submission} {store' : τ}
    (code : Option String) (load : env.store.load id S.worker.store = (.ok (some s), store'))
    (running : s.status = .running) :
    (¬S.worker.WorksOn id →
        ¬S.Forsaken ((fresh service store clock).along env System.marks events) id →
          ∀ store'', env.store.save (s.reset (env.date S.worker.clock) code) store' =
              (.ok (), store'') →
            ∃ T, S.run env ((Request.rescore id code).events S.tasks.length 5) = some T ∧
              T.tasks[S.tasks.length]? = some ⟨.rescore id code, .over .done⟩ ∧
              find T.worker.store = Function.update (find S.worker.store) id
                (some (s.reset (env.date S.worker.clock) code)) ∧
              T.worker.queue = S.worker.queue ++ [.score id]) ∧
      (S.worker.WorksOn id ∨
          S.Forsaken ((fresh service store clock).along env System.marks events) id →
        ∃ T, S.run env ((Request.rescore id code).events S.tasks.length 2) = some T ∧
          T.tasks[S.tasks.length]? =
            some ⟨.rescore id code, .over (.refused (.notMovable id .running .pending))⟩ ∧
          find T.worker.store = find S.worker.store ∧ T.worker.queue = S.worker.queue) ∧
      ∀ r, S.worker.step env (.examine id r code) =
          some (S.worker, .over (.refused (.notMovable id .running .pending))) ↔
        r.status = .running ∧ (S.worker.WorksOn id ∨
          S.Forsaken ((fresh service store clock).along env System.marks events) id) := by
  have named : s.id = id := keeps.named _ _ _ (Worker.eq_of_load keeps load)
  subst named
  have marked_ : S.worker.inFlight = some s.id ↔ S.worker.WorksOn s.id ∨
      S.Forsaken ((fresh service store clock).along env System.marks events) s.id :=
    (marked keeps h).inFlight_iff
  have keepsLoad := Worker.find_of_load keeps load
  refine ⟨fun idle unforsaken store'' save => ?_, fun busy => ?_,
    fun r => examine_refuses_iff keeps h r code⟩
  · have free : ¬(s.status = .running ∧ S.worker.inFlight = some s.id) :=
      fun ⟨_, busy⟩ => (marked_.mp busy).elim idle unforsaken
    refine ⟨_, run_rescore code load free save, List.getElem?_concat_length, ?_, rfl⟩
    rw [← keepsLoad]
    exact Worker.find_of_save keeps save
  · exact ⟨_, run_rescore_refused code load running (marked_.mpr busy), List.getElem?_concat_length, keepsLoad, rfl⟩

theorem load_ofOutcome {saveFault : Nat → Option CallFault} {outcome : String → String → PassOutcome}
    {c : CountedStore} {s : Submission} (found : c.find? id = some s) :
    (WorkerEnv.ofOutcome (fun _ => none) saveFault outcome).store.load id c =
      (.ok (some s), { c with loads := c.loads + 1 }) :=
  congrArg (fun r => (Except.ok r, { c with loads := c.loads + 1 })) found

theorem save_ofOutcome {loadFault saveFault : Nat → Option CallFault}
    {outcome : String → String → PassOutcome} {c : CountedStore} (works : saveFault c.saves = none)
    (s : Submission) :
    (WorkerEnv.ofOutcome loadFault saveFault outcome).store.save s c =
      (.ok (), { c with
        saves := c.saves + 1
        store := c.store.save s
        saved := c.saved ++ [s] }) := by
  simp [WorkerEnv.ofOutcome, StoreAccess.inMemory, works]

/-- A pass comes to an end, but the store is down for all three saves of its outcome. -/
def downtime (n : Nat) : Option CallFault :=
  if 1 ≤ n ∧ n ≤ 3 then some (.fails (.unreachable "down")) else none

def stuckEnv : WorkerEnv Unit CountedStore :=
  .ofOutcome (fun _ => none) downtime fun _ code => .assessed (.graded .failed 0 code)

def stuckStore : CountedStore :=
  { store := ⟨[.fresh ⟨1⟩ (stuckEnv.date 0) "sqli_001" "one" none]⟩ }

def stuckWorking : List Event :=
  Request.start.events 0 1 ++ (Request.enqueue ⟨1⟩).events 1 2 ++ List.replicate 4 (.consumer 0)

def stuckIdle : List Event := stuckWorking ++ .wait 5 :: List.replicate 5 (.consumer 0)

/-- A record is refused during its pass, and not when it was left running. -/
theorem running_rescore_stuck :
    (∃ S T, (fresh () stuckStore 0).run stuckEnv stuckWorking = some S ∧ S.worker.WorksOn ⟨1⟩ ∧
      S.run stuckEnv ((Request.rescore ⟨1⟩ none).events S.tasks.length 2) = some T ∧
      T.tasks[S.tasks.length]? =
        some ⟨.rescore ⟨1⟩ none, .over (.refused (.notMovable ⟨1⟩ .running .pending))⟩ ∧
      ∀ r, r.status = .running → S.worker.step stuckEnv (.examine ⟨1⟩ r none) =
        some (S.worker, .over (.refused (.notMovable ⟨1⟩ .running .pending)))) ∧
    ∃ S T s, (fresh () stuckStore 0).run stuckEnv stuckIdle = some S ∧ ¬S.worker.WorksOn ⟨1⟩ ∧
      ¬S.Forsaken ((fresh () stuckStore 0).along stuckEnv System.marks stuckIdle) ⟨1⟩ ∧
      S.worker.store.find? ⟨1⟩ = some s ∧ s.status = .running ∧
      S.run stuckEnv ((Request.rescore ⟨1⟩ (some "two")).events S.tasks.length 5) = some T ∧
      T.tasks[S.tasks.length]? = some ⟨.rescore ⟨1⟩ (some "two"), .over .done⟩ ∧
      T.worker.store.find? ⟨1⟩ = some (s.reset (stuckEnv.date S.worker.clock) (some "two")) ∧
      T.worker.queue = S.worker.queue ++ [.score ⟨1⟩] := by
  have keeps := WorkerEnv.ofOutcome_keeps (fun _ => none) downtime fun _ code =>
    .assessed (.graded .failed 0 code)
  have working : ((fresh () stuckStore 0).run stuckEnv stuckWorking).any (fun S =>
      decide (S.worker.WorksOn ⟨1⟩) &&
        (S.worker.store.find? ⟨1⟩).any (·.status = .running)) = true := by decide +kernel
  have idle : ((fresh () stuckStore 0).run stuckEnv stuckIdle).any (fun S =>
      decide (S.worker.consumers = [.receiving] ∧ S.worker.store.saves = 4) &&
        (S.worker.store.find? ⟨1⟩).any (·.status = .running)) = true := by decide +kernel
  constructor
  · obtain ⟨S, hS, working⟩ := (Option.any_eq_true _ _).mp working
    simp only [Bool.and_eq_true, decide_eq_true_eq, Option.any_eq_true] at working
    obtain ⟨works, s, found, running⟩ := working
    obtain ⟨_, refuses, checks⟩ := running_rescore keeps hS none (load_ofOutcome found) running
    obtain ⟨T, hT, refused, _⟩ := refuses (.inl works)
    exact ⟨S, T, hS, works, hT, refused, fun r now => (checks r).mpr ⟨now, .inl works⟩⟩
  · obtain ⟨S, hS, idle⟩ := (Option.any_eq_true _ _).mp idle
    simp only [Bool.and_eq_true, decide_eq_true_eq, Option.any_eq_true] at idle
    obtain ⟨⟨one, saves⟩, s, found, running⟩ := idle
    have rests : ¬S.worker.WorksOn ⟨1⟩ := by
      simp [Worker.WorksOn, one, Stage.subject?, Stage.copy?]
    have alive : ¬S.Forsaken ((fresh () stuckStore 0).along stuckEnv System.marks stuckIdle) ⟨1⟩ := by
      rintro ⟨i, _, dead⟩
      simpa [one] using List.mem_of_getElem? dead
    have up : downtime S.worker.store.saves = none := by rw [saves]; rfl
    obtain ⟨T, hT, done, stored, queued⟩ :=
      (running_rescore keeps hS (some "two") (load_ofOutcome found) running).1 rests alive _
        (save_ofOutcome (c := { S.worker.store with loads := S.worker.store.loads + 1 }) up _)
    refine ⟨S, T, s, hS, rests, alive, found, running, hT, done, ?_, queued⟩
    exact (congrFun stored ⟨1⟩).trans (Function.update_self ..)

/-- The consumer dies when it stores the outcome of the first pass. -/
def crash (n : Nat) : Option CallFault := if n = 1 then some .breaks else none

def crashEnv : WorkerEnv Unit CountedStore :=
  .ofOutcome (fun _ => none) crash fun _ code => .assessed (.graded .failed 0 code)

def crashed : List Event :=
  stuckWorking ++ .wait 5 :: List.replicate 2 (.consumer 0) ++ Request.start.events 2 1 ++
    [.consumer 1]

/-- The record of a dead consumer is refused though nobody is at work on it and the store works. -/
theorem forsaken_rescore_refused :
    ∃ S T s, (fresh () stuckStore 0).run crashEnv crashed = some S ∧
      S.worker.consumers = [.dead, .receiving] ∧ ¬S.worker.WorksOn ⟨1⟩ ∧
      S.worker.store.find? ⟨1⟩ = some s ∧ s.status = .running ∧
      (∀ n, S.worker.store.saves ≤ n → crash n = none) ∧
      S.run crashEnv ((Request.rescore ⟨1⟩ none).events S.tasks.length 2) = some T ∧
      ∃ t, T.tasks[S.tasks.length]? = some t ∧
        t.call.result? = some (.refused (.notMovable ⟨1⟩ .running .pending)) := by
  have goes : ((fresh () stuckStore 0).run crashEnv crashed).any (fun S =>
      decide (S.worker.consumers = [.dead, .receiving] ∧ ¬S.worker.WorksOn ⟨1⟩ ∧
        1 < S.worker.store.saves) &&
      (S.worker.store.find? ⟨1⟩).any (·.status = .running) &&
      (S.run crashEnv ((Request.rescore ⟨1⟩ none).events S.tasks.length 2)).any fun T =>
        (T.tasks[S.tasks.length]?).any fun t =>
          decide (t.call.result? = some (.refused (.notMovable ⟨1⟩ .running .pending)))) = true := by
    decide +kernel
  obtain ⟨S, hS, goes⟩ := (Option.any_eq_true _ _).mp goes
  simp only [Bool.and_eq_true, decide_eq_true_eq, Option.any_eq_true] at goes
  obtain ⟨⟨⟨two, rests, later⟩, s, found, running⟩, T, hT, t, at_, refused⟩ := goes
  refine ⟨S, T, s, hS, two, rests, found, running, fun n hn => ?_, hT, t, at_, refused⟩
  exact if_neg (by omega)

end System

end FixGrader
