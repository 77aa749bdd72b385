import FixGrader.Proofs.Worker.Provenance
import FixGrader.Proofs.Worker.Recovery

namespace FixGrader

/-- The record `r` is `s` made ready to be scored again, with other code if `code` is given. -/
structure Submission.ResetFrom (r s : Submission) (code : Option String) : Prop where
  origin : r.SameOrigin s
  code : r.code = code.getD s.code
  status : r.status = .pending
  score : r.score = none
  feedback : r.feedback = none
  issues : r.issues = []

theorem Submission.resetFrom_reset (s : Submission) (date : Instant) (code : Option String) :
    (s.reset date code).ResetFrom s code :=
  ⟨⟨rfl, rfl, rfl, rfl⟩, rfl, rfl, rfl, rfl, rfl⟩

namespace Worker

variable {σ τ : Type} {env : WorkerEnv σ τ} {w : Worker σ τ} {s : Submission} {store : τ}
  {f : CallFault} {id : Uuid} {code : Option String}

/-- What a worker is after it has taken on the scoring of `s`. -/
structure TakesOn (find : τ → Uuid → Option Submission) (w w' : Worker σ τ) (s : Submission) :
    Prop where
  stored : find w'.store = Function.update (find w.store) s.id (some s)
  queue : w'.queue = w.queue ++ [.score s.id]
  pending : w'.pending = w.pending + 1

structure Untouched (find : τ → Uuid → Option Submission) (w w' : Worker σ τ) : Prop where
  stored : find w'.store = find w.store
  queue : w'.queue = w.queue
  pending : w'.pending = w.pending

theorem step_rescore_missing (load : env.store.load id w.store = (.ok none, store)) :
    w.step env (.rescore id code) =
      some ({ w with store }, .over (.refused (.notFound id))) := by
  simp [step, Worker.load, load]

theorem step_rescore_fault (load : env.store.load id w.store = (.error f, store)) :
    w.step env (.rescore id code) = some ({ w with store }, .fault f) := by
  simp [step, Worker.load, load]

end Worker

def CallResult.Denies (result : CallResult) : Prop := (∃ e, result = .refused e) ∨ result = .broke

theorem Call.fault_denies (f : CallFault) :
    ∃ result, Call.fault f = .over result ∧ result.Denies := by
  cases f with
  | fails e => exact ⟨_, rfl, .inl ⟨_, rfl⟩⟩
  | breaks => exact ⟨_, rfl, .inr rfl⟩

namespace System

variable {σ τ : Type} {env : WorkerEnv σ τ} {S T T' : System σ τ} {r : Request}
  {result result' : CallResult} {find : τ → Uuid → Option Submission}

/-- The request is answered like this, when nothing comes between the steps of its call. -/
def Answers (env : WorkerEnv σ τ) (S : System σ τ) (r : Request) (result : CallResult)
    (T : System σ τ) : Prop :=
  ∃ n, S.run env (r.events S.tasks.length n) = some T ∧
    T.tasks[S.tasks.length]? = some ⟨r, .over result⟩

theorem answers_of_run {n : Nat} {w : Worker σ τ}
    (h : S.run env (r.events S.tasks.length n) = some ⟨w, S.tasks ++ [⟨r, .over result⟩]⟩) :
    S.Answers env r result ⟨w, S.tasks ++ [⟨r, .over result⟩]⟩ :=
  ⟨n, h, List.getElem?_concat_length⟩

theorem run_of_over {k n : Nat} (ended : T.tasks[k]? = some ⟨r, .over result⟩)
    (h : T.run env (List.replicate n (.call k)) = some T') : n = 0 := by
  cases n with
  | zero => rfl
  | succ n => simp [run, step, List.replicate_succ, ended, Worker.step] at h

theorem Answers.le {n m : Nat} (h : S.run env (r.events S.tasks.length n) = some T)
    (ended : T.tasks[S.tasks.length]? = some ⟨r, .over result⟩)
    (h' : S.run env (r.events S.tasks.length m) = some T') : m ≤ n := by
  by_contra more
  obtain ⟨j, rfl⟩ := Nat.exists_eq_add_of_lt (Nat.lt_of_not_le more)
  have split : r.events S.tasks.length (n + j + 1) =
      r.events S.tasks.length n ++ List.replicate (j + 1) (.call S.tasks.length) := by
    simp only [Request.events, List.cons_append, List.replicate_append_replicate, Nat.add_assoc]
  rw [split, run_append, h, Option.bind_some] at h'
  cases run_of_over ended h'

theorem Answers.unique (h : S.Answers env r result T) (h' : S.Answers env r result' T') :
    result' = result ∧ T' = T := by
  obtain ⟨n, run, ended⟩ := h
  obtain ⟨m, run', ended'⟩ := h'
  obtain rfl : m = n := Nat.le_antisymm (Answers.le run ended run') (Answers.le run' ended' run)
  cases run.symm.trans run'
  cases ended.symm.trans ended'
  exact ⟨rfl, rfl⟩

theorem answers_of_fault {f : CallFault} {w : Worker σ τ}
    (goes : S.worker.step env r.call = some (w, .fault f)) :
    ∃ result, result.Denies ∧ S.Answers env r result ⟨w, S.tasks ++ [⟨r, .over result⟩]⟩ := by
  obtain ⟨result, ended, denies⟩ := Call.fault_denies f
  rw [ended] at goes
  refine ⟨result, denies, answers_of_run (n := 1) ?_⟩
  rw [run_events, run_last goes]
  rfl

theorem submit_answers (keeps : env.store.Keeps find) (S : System σ τ) (s : Submission) :
    ∃ result T, S.Answers env (.submit s) result T ∧
      (result = .accepted s.id ∧ S.worker.TakesOn find T.worker s ∨
        result.Denies ∧ S.worker.Untouched find T.worker) := by
  rcases save : env.store.save s S.worker.store with ⟨f | _, store⟩
  · obtain ⟨result, denies, answers⟩ :=
      answers_of_fault (r := .submit s) (congrArg some (Worker.saveFor_error save _))
    exact ⟨result, _, answers, .inr ⟨denies, Worker.find_of_fault keeps save, rfl, rfl⟩⟩
  · have saves : S.worker.step env (.submit s) = some (_, .enqueue s.id _) :=
      congrArg some (Worker.saveFor_ok save _)
    have runs : S.run env ((Request.submit s).events S.tasks.length 3) =
        some ⟨{ S.worker with
          store := store
          pending := S.worker.pending + 1
          queue := S.worker.queue ++ [.score s.id] },
          S.tasks ++ [⟨.submit s, .over (.accepted s.id)⟩]⟩ := by
      rw [run_events, Request.call, run_last saves, run_last rfl, run_last rfl]
      rfl
    exact ⟨_, _, answers_of_run runs, .inl ⟨rfl, Worker.find_of_save keeps save, rfl, rfl⟩⟩

theorem rescore_answers (keeps : env.store.Keeps find) (S : System σ τ) (id : Uuid)
    (code : Option String) :
    ∃ result T, S.Answers env (.rescore id code) result T ∧
      (result = .done ∧ (∃ s r, find S.worker.store id = some s ∧ r.id = id ∧ r.ResetFrom s code ∧
          S.worker.TakesOn find T.worker r) ∨
        result.Denies ∧ S.worker.Untouched find T.worker) := by
  rcases load : env.store.load id S.worker.store with ⟨f | _ | s, store⟩
  · obtain ⟨result, denies, answers⟩ :=
      answers_of_fault (r := .rescore id code) (Worker.step_rescore_fault load)
    exact ⟨result, _, answers, .inr ⟨denies, Worker.find_of_load keeps load, rfl, rfl⟩⟩
  · have runs : S.run env ((Request.rescore id code).events S.tasks.length 1) =
        some ⟨{ S.worker with store }, S.tasks ++
          [⟨.rescore id code, .over (.refused (.notFound id))⟩]⟩ := by
      rw [run_events, Request.call, run_last (Worker.step_rescore_missing load)]
      rfl
    exact ⟨_, _, answers_of_run runs,
      .inr ⟨.inl ⟨_, rfl⟩, Worker.find_of_load keeps load, rfl, rfl⟩⟩
  · have kept := Worker.find_of_load keeps load
    have found := Worker.eq_of_load keeps load
    have named : s.id = id := keeps.named _ _ _ found
    -- Refused if the record is being scored; else the save decides.
    by_cases busy : s.status = .running ∧ S.worker.inFlight = some id
    · exact ⟨_, _, answers_of_run (run_rescore_refused code load busy.1 busy.2),
        .inr ⟨.inl ⟨_, rfl⟩, kept, rfl, rfl⟩⟩
    · have permits : Worker.step env { S.worker with store } (.examine id s code) = _ :=
        Worker.step_examine code busy
      have reset := s.resetFrom_reset (env.date S.worker.clock) code
      have named' := reset.origin.id.trans named
      rcases save : env.store.save (s.reset (env.date S.worker.clock) code) store with
        ⟨f | _, store'⟩
      · obtain ⟨result, ended, denies⟩ := Call.fault_denies f
        have stops : Worker.step env { S.worker with store }
            (.restore id (s.reset (env.date S.worker.clock) code)) = some (_, .fault f) :=
          congrArg some (Worker.saveFor_error save _)
        have runs : S.run env ((Request.rescore id code).events S.tasks.length 3) =
            some ⟨{ S.worker with store := store' }, S.tasks ++
              [⟨.rescore id code, .over result⟩]⟩ := by
          rw [run_events, Request.call, run_last (Worker.step_rescore load), run_last permits,
            run_last stops, ended]
          rfl
        have kept' := (Worker.find_of_fault keeps save).trans kept
        exact ⟨_, _, answers_of_run runs, .inr ⟨denies, kept', rfl, rfl⟩⟩
      · have stored := Worker.find_of_save keeps save
        rw [kept] at stored
        exact ⟨_, _, answers_of_run (run_rescore code load busy save),
          .inl ⟨rfl, s, _, found, named', reset, stored, by rw [named'], rfl⟩⟩

/-- A submit and a rescore that nothing comes between are answered. An answer that accepts means
that all is done: one record is stored, its id is the last in the queue and one more is pending. Any
other answer means that nothing is changed. -/
theorem accepted_or_untouched (keeps : env.store.Keeps find) (S : System σ τ) :
    (∀ s, (∃ result T, S.Answers env (.submit s) result T) ∧
      ∀ result T, S.Answers env (.submit s) result T →
        result = .accepted s.id ∧ S.worker.TakesOn find T.worker s ∨
          result.Denies ∧ S.worker.Untouched find T.worker) ∧
      ∀ id code, (∃ result T, S.Answers env (.rescore id code) result T) ∧
        ∀ result T, S.Answers env (.rescore id code) result T →
          result = .done ∧ (∃ s r, find S.worker.store id = some s ∧ r.id = id ∧
              r.ResetFrom s code ∧ S.worker.TakesOn find T.worker r) ∨
            result.Denies ∧ S.worker.Untouched find T.worker := by
  refine ⟨fun s => ?_, fun id code => ?_⟩
  · obtain ⟨result, T, answers, settles⟩ := submit_answers keeps S s
    refine ⟨⟨result, T, answers⟩, fun result' T' answers' => ?_⟩
    obtain ⟨rfl, rfl⟩ := answers.unique answers'
    exact settles
  · obtain ⟨result, T, answers, settles⟩ := rescore_answers keeps S id code
    refine ⟨⟨result, T, answers⟩, fun result' T' answers' => ?_⟩
    obtain ⟨rfl, rfl⟩ := answers.unique answers'
    exact settles

def queuedEnv : WorkerEnv Unit CountedStore :=
  .ofOutcome (fun _ => none) (fun _ => none) fun _ _ => .broke none

def queuedStore : CountedStore :=
  let one : Submission := .fresh ⟨1⟩ (queuedEnv.date 0) "sqli_001" "one" none
  let two : Submission := .fresh ⟨2⟩ (queuedEnv.date 0) "xss_001" "one" none
  { store := ⟨[one.markRunning (queuedEnv.date 1), two.markError (queuedEnv.date 1) "down"]⟩ }

/-- Two ids are queued before a stop, and another one is being scored. -/
def queuedSystem : System Unit CountedStore where
  worker :=
    { service := ()
      store := queuedStore
      queue := [.score ⟨2⟩, .score ⟨3⟩, .stop]
      pending := 3
      inFlight := some ⟨1⟩ }

theorem accepted_or_untouched_queued :
    queuedEnv.store.Keeps CountedStore.find? ∧
      (∃ T, queuedSystem.Answers queuedEnv (.rescore ⟨2⟩ (some "two")) .done T ∧
        ∃ s r, queuedSystem.worker.store.find? ⟨2⟩ = some s ∧ r.id = ⟨2⟩ ∧
          r.ResetFrom s (some "two") ∧ queuedSystem.worker.TakesOn CountedStore.find? T.worker r) ∧
      ∃ T, queuedSystem.Answers queuedEnv (.rescore ⟨1⟩ (some "two"))
          (.refused (.notMovable ⟨1⟩ .running .pending)) T ∧
        queuedSystem.worker.Untouched CountedStore.find? T.worker := by
  have keeps : queuedEnv.store.Keeps CountedStore.find? := WorkerEnv.ofOutcome_keeps _ _ _
  refine ⟨keeps, ⟨_, ⟨5, rfl, rfl⟩, ?_⟩, _, ⟨2, rfl, rfl⟩, ?_⟩
  · obtain ⟨_, taken⟩ | ⟨⟨e, refused⟩ | broke, _⟩ :=
      ((accepted_or_untouched keeps queuedSystem).2 ⟨2⟩ (some "two")).2 .done _ ⟨5, rfl, rfl⟩
    · exact taken
    · cases refused
    · cases broke
  · obtain ⟨done, _⟩ | ⟨_, untouched⟩ :=
      ((accepted_or_untouched keeps queuedSystem).2 ⟨1⟩ (some "two")).2 _ _ ⟨2, rfl, rfl⟩
    · cases done
    · exact untouched

end System

end FixGrader
