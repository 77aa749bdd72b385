import FixGrader.Proofs.Worker.Pulling

namespace FixGrader

theorem Call.posts_of_feeds {c : Call} (feeds : c.feeds = true) : .stop ∉ c.posts := by
  cases c with
  | start | stop | stopping | sendStop | awaitExit => cases feeds
  | flush | submit | rescore | examine | restore => cases feeds
  | _ => simp [posts]

theorem Worker.Turn.length_consumers {σ τ : Type} {env : WorkerEnv σ τ} {w w' : Worker σ τ}
    {i : Nat} (h : Turn env w i w') : w'.consumers.length = w.consumers.length := by
  obtain ⟨_, _, _, set, _⟩ := h.consumers
  rw [set, List.length_set]

/-- One consumer has been started, and nobody has taken it from the worker. -/
structure Worker.Solo {σ τ : Type} (w : Worker σ τ) : Prop where
  current : w.current = some 0
  one : w.consumers.length = 1

namespace System

variable {σ τ : Type} {env : WorkerEnv σ τ} {S T : System σ τ} {e : Event} {events : List Event}
  {service : σ} {store : τ} {clock : Nat} {source : List (Option Uuid)}

theorem length_tasks_le (h : S.run env events = some T) : S.tasks.length ≤ T.tasks.length :=
  run_induction (motive := fun _ T => S.tasks.length ≤ T.tasks.length) (Nat.le_refl _)
    (fun _ _ _ _ _ ih hT => Nat.le_trans ih (happens_of_step hT).length_tasks) h

theorem run_induction_tasks {motive : List Event → System σ τ → Prop} (start : motive [] S)
    (next : ∀ events R e T, motive events R → S.run env events = some R → Happens env R e T →
      (∀ r, e ≠ .request r) → motive (events ++ [e]) T)
    (h : S.run env events = some T) (same : T.tasks.length = S.tasks.length) :
    motive events T := by
  revert same
  refine run_induction (motive := fun events T => T.tasks.length = S.tasks.length →
    motive events T) (fun _ => start) ?_ h
  intro events R e T hR ih hT same
  have hap := happens_of_step hT
  have before := length_tasks_le hR
  have after := hap.length_tasks
  refine next events R e T (ih (by omega)) hR hap ?_
  -- A request would have left one task more.
  rintro r rfl
  cases hap
  simp only [List.length_append, List.length_singleton] at same
  omega

/-- A worker is started, or has been started and is pulled for. -/
inductive Feeding (source : List (Option Uuid)) (S : System σ τ) : Prop
  | starting (tasks : S.tasks = [⟨.start, .start⟩]) (none_ : S.worker.current = none)
      (idle : S.worker.consumers = [])
  | started (tasks : S.tasks = [⟨.start, .over .done⟩]) (solo : S.worker.Solo)
  | pulling {c : Call} (tasks : S.tasks = [⟨.start, .over .done⟩, ⟨.pull source, c⟩])
      (feeds : c.feeds = true) (solo : S.worker.Solo)

/-- After the pull the worker is stopped, by a call that has not returned before the consumer. -/
inductive Ending (source : List (Option Uuid)) (S : System σ τ) : Prop
  | stopping {c : Call} (tasks : S.tasks =
        [⟨.start, .over .done⟩, ⟨.pull source, .over .done⟩, ⟨.stop, c⟩])
      (stops : c = .stop ∧ S.worker.current = some 0 ∨ c.stops? = some 0)
      (one : S.worker.consumers.length = 1)
  | stopped (tasks : S.tasks =
        [⟨.start, .over .done⟩, ⟨.pull source, .over .done⟩, ⟨.stop, .over .done⟩])
      (gone : S.worker.isOver 0 = true) (one : S.worker.consumers.length = 1)

theorem Feeding.of_callTurn {k : Nat} {t : Task} {w : Worker σ τ} {c : Call}
    (feeding : S.Feeding source) (at_ : S.tasks[k]? = some t)
    (turn : S.worker.CallTurn env t.call w c) : (S.setCall k t w c).Feeding source := by
  cases feeding with
  | starting tasks none_ idle =>
    rw [tasks] at at_
    obtain _ | k := k <;> cases at_
    cases turn with
    | start =>
      have stopped : S.worker.isRunning = false := by simp [Worker.isRunning, none_]
      refine .started (by rw [setCall, tasks]; rfl) ?_
      rw [Worker.start_of_idle stopped]
      exact ⟨by simp [setCall, idle], by simp [setCall, idle]⟩
  | started tasks =>
    rw [tasks] at at_
    obtain _ | k := k <;> cases at_
    cases turn
  | pulling tasks feeds solo =>
    rw [tasks] at at_
    obtain _ | _ | k := k <;> cases at_
    · cases turn
    · obtain ⟨consumers, current, feeds⟩ := turn.feeds feeds
      refine .pulling (by rw [setCall, tasks]; rfl) feeds ?_
      exact ⟨current.trans solo.current, (congrArg _ consumers).trans solo.one⟩

theorem Feeding.of_happens (feeding : S.Feeding source) (h : Happens env S e T)
    (own : ∀ r, e ≠ .request r) : T.Feeding source := by
  cases h with
  | request r => exact absurd rfl (own r)
  | call at_ turn => exact feeding.of_callTurn at_ turn
  | @giveUp k _ _ _ at_ =>
    cases feeding with
    | starting tasks | started tasks =>
      rw [tasks] at at_
      obtain _ | k := k <;> cases at_
    | pulling tasks feeds =>
      rw [tasks] at at_
      obtain _ | _ | k := k <;> cases at_
      cases feeds
  | consumer turn =>
    cases feeding with
    | starting _ _ idle =>
      obtain ⟨_, _, at_, _⟩ := turn.consumers
      simp [idle] at at_
    | started tasks solo =>
      exact .started tasks
        ⟨turn.current.trans solo.current, turn.length_consumers.trans solo.one⟩
    | pulling tasks feeds solo =>
      exact .pulling tasks feeds
        ⟨turn.current.trans solo.current, turn.length_consumers.trans solo.one⟩
  | wait | shutdown =>
    cases feeding with
    | starting tasks none_ idle => exact .starting tasks none_ idle
    | started tasks solo => exact .started tasks ⟨solo.current, solo.one⟩
    | pulling tasks feeds solo => exact .pulling tasks feeds ⟨solo.current, solo.one⟩

theorem Feeding.posts (feeding : S.Feeding source) (e : Event) :
    .stop ∉ S.posts e ∧ S.sends e = PullMark.sends (S.pullMarks 1 e) := by
  cases e with
  | call k =>
    cases feeding with
    | starting tasks | started tasks =>
      obtain _ | k := k <;>
        simp [System.posts, sends, pullMarks, ofTask, tasks, Call.posts, Call.sends]
    | pulling tasks feeds =>
      obtain _ | _ | k := k
      · simp [System.posts, sends, pullMarks, ofTask, tasks, Call.posts, Call.sends]
      · simpa [System.posts, sends, pullMarks, ofTask, tasks] using Call.posts_of_feeds feeds
      · simp [System.posts, sends, pullMarks, ofTask, tasks]
  | _ => simp [System.posts, sends, pullMarks, ofTask]

theorem Feeding.along_posts (feeding : S.Feeding source) (h : S.run env events = some T)
    (same : T.tasks.length = S.tasks.length) :
    T.Feeding source ∧ .stop ∉ S.along env System.posts events ∧
      S.along env sends events = PullMark.sends (S.along env (pullMarks 1) events) := by
  refine run_induction_tasks (motive := fun events T => T.Feeding source ∧
    .stop ∉ S.along env System.posts events ∧
      S.along env sends events = PullMark.sends (S.along env (pullMarks 1) events)) ?_ ?_ h same
  · exact ⟨feeding, List.not_mem_nil, rfl⟩
  · rintro events R e T ⟨feeding, noStop, sent⟩ hR hap own
    obtain ⟨none_, only⟩ := feeding.posts e
    rw [along_concat _ hR, along_concat _ hR, along_concat _ hR, PullMark.sends_append, sent, only,
      List.mem_append]
    exact ⟨feeding.of_happens hap own, not_or.mpr ⟨noStop, none_⟩, rfl⟩

theorem Ending.of_callTurn {k : Nat} {t : Task} {w : Worker σ τ} {c : Call}
    (ending : S.Ending source) (at_ : S.tasks[k]? = some t)
    (turn : S.worker.CallTurn env t.call w c) : (S.setCall k t w c).Ending source := by
  cases ending with
  | @stopping c' tasks stops one =>
    rw [tasks] at at_
    obtain _ | _ | _ | k := k <;> cases at_
    · cases turn
    · cases turn
    · have moved : ∀ c, S.tasks.set 2 ⟨.stop, c⟩ =
          [⟨.start, .over .done⟩, ⟨.pull source, .over .done⟩, ⟨.stop, c⟩] := by
        intro c
        rw [tasks]
        rfl
      obtain ⟨rfl, current⟩ | taken := stops
      · cases turn with
        | stopNone none_ => cases none_.symm.trans current
        | stopTake some_ =>
          obtain rfl := Option.some.inj (some_.symm.trans current)
          exact .stopping (moved _) (.inr rfl) one
      · cases c' with
        | stopping =>
          cases taken
          cases turn with
          | stopOver gone => exact .stopped (moved _) gone one
          | stopLive => exact .stopping (moved _) (.inr rfl) one
        | sendStop =>
          cases taken
          cases turn with
          | sendStop => exact .stopping (moved _) (.inr rfl) one
        | awaitExit =>
          cases taken
          cases turn with
          | exited gone => exact .stopped (moved _) gone one
        | _ => cases taken
  | stopped tasks =>
    rw [tasks] at at_
    obtain _ | _ | _ | k := k <;> cases at_ <;> cases turn

theorem Ending.of_happens (ending : S.Ending source) (h : Happens env S e T)
    (own : ∀ r, e ≠ .request r) (waits : e ≠ .giveUp 2) : T.Ending source := by
  cases h with
  | request r => exact absurd rfl (own r)
  | call at_ turn => exact ending.of_callTurn at_ turn
  | @giveUp k _ _ _ at_ =>
    cases ending with
    | stopping tasks | stopped tasks =>
      rw [tasks] at at_
      obtain _ | _ | _ | k := k <;> first | cases at_; done | exact absurd rfl waits
  | consumer turn =>
    cases ending with
    | stopping tasks stops one =>
      exact .stopping tasks (stops.imp_left fun h => ⟨h.1, turn.current.trans h.2⟩)
        (turn.length_consumers.trans one)
    | stopped tasks gone one =>
      exact .stopped tasks (turn.deal.isOver gone) (turn.length_consumers.trans one)
  | wait | shutdown =>
    cases ending with
    | stopping tasks stops one => exact .stopping tasks stops one
    | stopped tasks gone one => exact .stopped tasks gone one

theorem Ending.silent (ending : S.Ending source) (e : Event) :
    S.sends e = [] ∧ S.pullMarks 1 e = [] := by
  cases e with
  | call k =>
    cases ending with
    | @stopping c tasks stops =>
      have none_ : c.sends = [] := by
        obtain ⟨rfl, _⟩ | taken := stops
        · rfl
        · cases c <;> first | rfl | cases taken
      obtain _ | _ | _ | k := k
      · simp [sends, pullMarks, ofTask, tasks, Call.sends]
      · simp [sends, pullMarks, ofTask, tasks, Call.sends, Call.pullMarks]
      · simp [sends, pullMarks, ofTask, tasks, none_]
      · simp [sends, pullMarks, ofTask, tasks]
    | stopped tasks =>
      obtain _ | _ | _ | k := k <;> simp [sends, pullMarks, ofTask, tasks, Call.sends, Call.pullMarks]
  | _ => simp [sends, pullMarks, ofTask]

theorem Ending.along_silent (ending : S.Ending source) (h : S.run env events = some T)
    (same : T.tasks.length = S.tasks.length) (waits : .giveUp 2 ∉ events) :
    T.Ending source ∧ S.along env sends events = [] ∧
      S.along env (pullMarks 1) events = [] := by
  revert waits
  refine run_induction_tasks (motive := fun events T => .giveUp 2 ∉ events →
    T.Ending source ∧ S.along env sends events = [] ∧
      S.along env (pullMarks 1) events = []) ?_ ?_ h same
  · exact fun _ => ⟨ending, rfl, rfl⟩
  · intro events R e T ih hR hap own waits
    rw [List.mem_append, List.mem_singleton, not_or] at waits
    obtain ⟨ending, unsent, unpopped⟩ := ih waits.1
    obtain ⟨sends_, pops_⟩ := ending.silent e
    rw [along_concat _ hR, along_concat _ hR, unsent, unpopped, sends_, pops_]
    exact ⟨ending.of_happens hap own (Ne.symm waits.2), rfl, rfl⟩

theorem overtakes_of_length_le (few : S.worker.consumers.length ≤ 1) (e : Event) :
    S.overtakes e = [] := by
  cases e with
  | consumer i =>
    refine if_neg fun ⟨at_, mem⟩ => ?_
    have first := (List.getElem?_eq_some_iff.mp at_).1
    obtain rfl : i = 0 := by omega
    cases mem
  | _ => rfl

theorem along_overtakes (h : S.run env events = some T)
    (few : T.worker.consumers.length ≤ 1) : S.along env overtakes events = [] := by
  revert few
  refine run_induction (motive := fun events T => T.worker.consumers.length ≤ 1 →
    S.along env overtakes events = []) (fun _ => rfl) ?_ h
  intro events R e T hR ih hT few
  have grows := (happens_of_step hT).length_consumers
  rw [along_concat _ hR, ih (by omega), overtakes_of_length_le (by omega)]
  rfl

/-- A lone consumer that has ended without dying worked off all that was sent before the first stop
message. -/
theorem prefix_settled {before after : List Event} {B : System σ τ}
    (hB : (fresh service store clock).run env before = some B) (hS : B.run env after = some S)
    (alive : S.Alive) (one : S.worker.consumers.length = 1) (gone : S.worker.isOver 0 = true)
    (noStop : .stop ∉ (fresh service store clock).along env posts before) :
    (fresh service store clock).along env sends before <+:
        (Ledger.ofMarks ((fresh service store clock).along env marks (before ++ after))).settled ∧
      (Ledger.ofMarks ((fresh service store clock).along env marks (before ++ after))).settled <+:
        (fresh service store clock).along env sends (before ++ after) := by
  have h := run_append_eq_some.mpr ⟨B, hB, hS⟩
  have ended := (alive.finished (by omega)).mp gone
  have rests : ∀ stage ∈ S.worker.consumers, stage.isBusy = false := by
    obtain ⟨stage, only⟩ := List.length_eq_one_iff.mp one
    rw [only] at ended ⊢
    cases ended
    simp [Stage.isBusy, Stage.works]
  have stops : (Mark.taken ((fresh service store clock).along env marks (before ++ after))).count
      .stop = S.worker.consumers.count .finished :=
    count_taken (along_overtakes h (Nat.le_of_eq one)) h
  have sentFirst := along_isPrefix posts hB after
  have takenFirst := taken_isPrefix h
  -- The consumer took a stop message, so it had taken all that was sent before there was one.
  rw [(agrees alive h).rests rests, along_sends, along_sends]
  refine ⟨(prefix_of_count_lt sentFirst takenFirst .stop ?_).filterMap _, takenFirst.filterMap _⟩
  rw [stops, List.count_eq_zero.mpr noStop]
  exact List.count_pos_iff.mpr (List.mem_of_getElem? ended)

theorem Feeding.solo {rest : List Task} (feeding : S.Feeding source)
    (tasks : S.tasks = ⟨.start, .over .done⟩ :: rest) : S.worker.Solo := by
  cases feeding with
  | starting tasks' => cases tasks'.symm.trans tasks
  | started _ solo | pulling _ _ solo => exact solo

theorem Ending.gone (ending : S.Ending source)
    (tasks : S.tasks =
      [⟨.start, .over .done⟩, ⟨.pull source, .over .done⟩, ⟨.stop, .over .done⟩]) :
    S.worker.isOver 0 = true ∧ S.worker.consumers.length = 1 := by
  cases ending with
  | stopping tasks' stops =>
    cases tasks'.symm.trans tasks
    obtain ⟨same, _⟩ | taken := stops
    · cases same
    · cases taken
  | stopped _ gone one => exact ⟨gone, one⟩

theorem sent_of_pulled {first middle : List Event} {A B : System σ τ}
    (hA : (fresh service store clock).run env (.request .start :: first) = some A)
    (started : A.tasks = [⟨.start, .over .done⟩])
    (hB : A.run env (.request (.pull source) :: middle) = some B)
    (pulled : B.tasks = [⟨.start, .over .done⟩, ⟨.pull source, .over .done⟩]) :
    let before := .request .start :: first ++ .request (.pull source) :: middle
    B.worker.Solo ∧ .stop ∉ (fresh service store clock).along env posts before ∧
      (fresh service store clock).along env sends before =
        (PullMark.answers
          ((fresh service store clock).along env (pullMarks 1) before)).reduceOption := by
  intro before
  have upTo : (fresh service store clock).run env before = some B :=
    run_append_eq_some.mpr ⟨A, hA, hB⟩
  have begins : Feeding source
      { fresh (σ := σ) (τ := τ) service store clock with tasks := [⟨.start, .start⟩] } :=
    .starting rfl rfl rfl
  obtain ⟨feedsA, noStopA, sentA⟩ := begins.along_posts hA (by rw [started]; rfl)
  have resumes : Feeding source
      { A with tasks := A.tasks ++ [⟨.pull source, .pull source⟩] } :=
    .pulling (by rw [started]; rfl) rfl (feedsA.solo started)
  obtain ⟨feedsB, noStopB, sentB⟩ := resumes.along_posts hB (by rw [started, pulled]; rfl)
  have at_ : B.tasks[1]? = some ⟨.pull source, .over .done⟩ := by rw [pulled]; rfl
  have own : PullMark.sends ((fresh service store clock).along env (pullMarks 1) before) ++ [] =
      (PullMark.answers
        ((fresh service store clock).along env (pullMarks 1) before)).reduceOption :=
    (pulls upTo at_).sends_append
  refine ⟨feedsB.solo pulled, ?_, ?_⟩
  · rw [along_append posts hA, List.mem_append, not_or]
    exact ⟨noStopA, noStopB⟩
  · rw [← own, List.append_nil, along_append _ hA, along_append _ hA,
      PullMark.sends_append]
    exact congrArg₂ (· ++ ·) sentA sentB

/-- A program that starts its worker, pulls and stops it, each of them when the call before has
returned, and asks nothing else of it, until the stop has returned as well. -/
def Serves (env : WorkerEnv σ τ) (S : System σ τ) (source : List (Option Uuid))
    (events : List Event) (T : System σ τ) : Prop :=
  ∃ first middle last A B,
    events = (.request .start :: first ++ .request (.pull source) :: middle) ++
      .request .stop :: last ∧
    S.run env (.request .start :: first) = some A ∧ A.tasks = [⟨.start, .over .done⟩] ∧
    A.run env (.request (.pull source) :: middle) = some B ∧
    B.tasks = [⟨.start, .over .done⟩, ⟨.pull source, .over .done⟩] ∧
    B.run env (.request .stop :: last) = some T ∧
    T.tasks = [⟨.start, .over .done⟩, ⟨.pull source, .over .done⟩, ⟨.stop, .over .done⟩]

theorem Serves.settled (serves : Serves env (fresh service store clock) source events S)
    (waits : .giveUp 2 ∉ events) (alive : S.Alive) :
    (Ledger.ofMarks ((fresh service store clock).along env marks events)).settled =
      (PullMark.answers
        ((fresh service store clock).along env (pullMarks 1) events)).reduceOption := by
  obtain ⟨first, middle, last, A, B, rfl, hA, started, hB, pulled, hS, stopped⟩ := serves
  obtain ⟨solo, noStop, sent⟩ := sent_of_pulled hA started hB pulled
  have upTo := run_append_eq_some.mpr ⟨A, hA, hB⟩
  have ends : Ending source { B with tasks := B.tasks ++ [⟨.stop, .stop⟩] } :=
    .stopping (by rw [pulled]; rfl) (.inl ⟨rfl, solo.current⟩) solo.one
  obtain ⟨ended, unsent, unpopped⟩ := ends.along_silent hS (by rw [pulled, stopped]; rfl)
    fun mem => waits (by simp [mem])
  obtain ⟨gone, one⟩ := ended.gone stopped
  -- What follows the request to stop adds nothing to the pops and to the ids that are sent.
  have silent := fun {α : Type} (f : System σ τ → Event → List α)
      (none_ : B.along env f (.request .stop :: last) = []) =>
    (along_append f upTo (.request .stop :: last)).trans (none_ ▸ List.append_nil _)
  obtain ⟨least, most⟩ := prefix_settled upTo hS alive one gone noStop
  rw [silent sends unsent] at most
  rw [silent (pullMarks 1) unpopped, ← sent]
  exact (least.eq_of_length_le most.length_le).symm

/-- The request for shutdown may come between any two steps, also in the middle of a pop, and between
a look and the pop that it lets begin. A pull sends the ids that it pops, each once and in their
order. A look that sees the request is the last thing that it does, so no pop follows it; it does not
return otherwise. Nothing holds it up but a pop that does not end. From the request on it does only
what it has ahead: the pop that it is in, or that its last look has let begin, the id of that pop, and
one look more, so that at most one pop begins. If a worker is started, pulled for and stopped, no
consumer dies and the stop does not give up its wait, then the ids that were popped are those that
have been worked off, in the same order. -/
theorem popped_settled (h : (fresh service store clock).run env events = some S) :
    (∀ k source c, S.tasks[k]? = some ⟨.pull source, c⟩ →
      ∃ did, (fresh service store clock).along env (pullMarks k) events = did ∧
        PullMark.answers did <+: source ∧
        PullMark.sends did ++ c.owed = (PullMark.answers did).reduceOption ∧
        .looked true ∉ did.dropLast ∧
        (∀ r, c = .over r → r = .done ∧ S.worker.shutdown = true ∧
          did.getLast? = some (.looked true)) ∧
        (c = .over .done ∨ c = .awaitPop [] ∨ (S.step env (.call k)).isSome = true) ∧
        ∀ before after B b, events = before ++ after →
          (fresh service store clock).run env before = some B → B.worker.shutdown = true →
          B.tasks[k]? = some ⟨.pull source, b⟩ →
          B.along env (pullMarks k) after ++ c.ahead = b.ahead ∧
            (B.along env (pullMarks k) after).count (.began true) ≤ 1) ∧
      ∀ source, Serves env (fresh service store clock) source events S →
        .giveUp 2 ∉ events → S.Alive →
          (Ledger.ofMarks ((fresh service store clock).along env marks events)).settled =
            (PullMark.answers
              ((fresh service store clock).along env (pullMarks 1) events)).reduceOption := by
  refine ⟨fun k source c at_ => ⟨_, rfl, ?_⟩, fun _ serves => serves.settled⟩
  have pulls_ := pulls h at_
  refine ⟨pulls_.isPrefix, pulls_.sends_append, pulls_.unseen, fun r ended => ?_, ?_, ?_⟩
  · subst ended
    cases pulls_ with
    | returned requested _ _ last =>
      rw [last]
      exact ⟨rfl, requested, List.getLast?_concat⟩
  · by_cases ended : c = .over .done
    · exact .inl ended
    by_cases waits : c = .awaitPop []
    · exact .inr (.inl waits)
    obtain ⟨⟨w, d⟩, goes⟩ := Option.isSome_iff_exists.mp
      (Worker.step_isSome_of_feeds env S.worker pulls_.feeds
        (fun r over_ => ended (by cases pulls_ <;> first | rfl | cases over_)) waits)
    exact .inr (.inr (by simp [step, at_, goes]))
  · rintro before after B b rfl hB requested was
    have ahead := along_ahead (run_of_append h hB) requested was (pulls hB was).feeds at_
    have few := (pulls hB was).count_ahead
    rw [← ahead, List.count_append] at few
    exact ⟨ahead, by omega⟩

def lateEnv : WorkerEnv Unit CountedStore :=
  .ofOutcome (fun _ => none) (fun _ => none) fun _ code => .assessed (.graded .failed 0 code)

def lateStore : CountedStore :=
  { store := ⟨[.fresh ⟨1⟩ (lateEnv.date 0) "sqli_001" "one" none,
      .fresh ⟨2⟩ (lateEnv.date 0) "xss_001" "two" none]⟩ }

def lateSource : List (Option Uuid) := [some ⟨1⟩, none, some ⟨2⟩, some ⟨3⟩]

def lateBefore : List Event :=
  Request.start.events 0 1 ++ (Request.pull lateSource).events 1 5 ++
    List.replicate 4 (.consumer 0) ++ List.replicate 5 (.call 1) ++ [.shutdown]

def lateLast : List Event :=
  List.replicate 3 (.call 2) ++ .wait 5 :: List.replicate 6 (.consumer 0) ++
    .wait 5 :: List.replicate 4 (.consumer 0) ++ [.call 2]

def lateEvents : List Event :=
  (lateBefore ++ List.replicate 4 (.call 1)) ++ .request .stop :: lateLast

theorem popped_settled_late :
    (∃ B R, (fresh () lateStore 0).run lateEnv lateBefore = some B ∧ B.worker.shutdown = true ∧
      B.tasks[1]? = some ⟨.pull lateSource, .awaitPop [some ⟨2⟩, some ⟨3⟩]⟩ ∧
      (fresh () lateStore 0).run lateEnv (lateBefore ++ [.call 1]) = some R ∧
      R.tasks[1]? = some ⟨.pull lateSource, .enqueue ⟨2⟩ (.pull [some ⟨3⟩])⟩ ∧
      PullMark.sends ((fresh () lateStore 0).along lateEnv (pullMarks 1)
        (lateBefore ++ [.call 1])) ++ [⟨2⟩] = [⟨1⟩, ⟨2⟩] ∧
      (R.step lateEnv (.call 1)).isSome = true ∧
      B.along lateEnv (pullMarks 1) [.call 1] ++ [.counted ⟨2⟩, .sent ⟨2⟩, .looked true] =
        [.popped (some ⟨2⟩), .counted ⟨2⟩, .sent ⟨2⟩, .looked true]) ∧
    ∃ S, (fresh () lateStore 0).run lateEnv lateEvents = some S ∧
      Serves lateEnv (fresh () lateStore 0) lateSource lateEvents S ∧
      .giveUp 2 ∉ lateEvents ∧ S.Alive ∧
      (Ledger.ofMarks ((fresh () lateStore 0).along lateEnv marks lateEvents)).settled =
        (PullMark.answers
          ((fresh () lateStore 0).along lateEnv (pullMarks 1) lateEvents)).reduceOption ∧
      (PullMark.answers
        ((fresh () lateStore 0).along lateEnv (pullMarks 1) lateEvents)).reduceOption =
          [⟨1⟩, ⟨2⟩] := by
  constructor
  · obtain ⟨B, hB, requested, was⟩ : ∃ B, (fresh () lateStore 0).run lateEnv lateBefore = some B ∧
        B.worker.shutdown = true ∧
        B.tasks[1]? = some ⟨.pull lateSource, .awaitPop [some ⟨2⟩, some ⟨3⟩]⟩ :=
      ⟨_, rfl, rfl, rfl⟩
    obtain ⟨R, hR, at_⟩ : ∃ R,
        (fresh () lateStore 0).run lateEnv (lateBefore ++ [.call 1]) = some R ∧
        R.tasks[1]? = some ⟨.pull lateSource, .enqueue ⟨2⟩ (.pull [some ⟨3⟩])⟩ :=
      ⟨_, rfl, rfl⟩
    have three : (PullMark.answers ((fresh () lateStore 0).along lateEnv (pullMarks 1)
        (lateBefore ++ [.call 1]))).reduceOption = [⟨1⟩, ⟨2⟩] := by decide +kernel
    obtain ⟨did, made, _, sent, _, _, goes, ahead⟩ := (popped_settled hR).1 1 _ _ at_
    subst made
    refine ⟨B, R, hB, requested, was, hR, at_, sent.trans three, ?_,
      (ahead lateBefore [.call 1] B _ rfl hB requested was).1⟩
    obtain ended | waits | goes := goes
    · cases ended
    · cases waits
    · exact goes
  · obtain ⟨S, hS, serves⟩ : ∃ S, (fresh () lateStore 0).run lateEnv lateEvents = some S ∧
        Serves lateEnv (fresh () lateStore 0) lateSource lateEvents S :=
      ⟨_, rfl, [.call 0], _, _, _, _, rfl, rfl, rfl, rfl, rfl, rfl, rfl⟩
    have ends : ((fresh () lateStore 0).run lateEnv lateEvents).all
        (fun S => decide (S.worker.consumers = [.finished])) = true := by decide +kernel
    have waits : .giveUp 2 ∉ lateEvents := by decide +kernel
    have ids : (PullMark.answers
        ((fresh () lateStore 0).along lateEnv (pullMarks 1) lateEvents)).reduceOption =
          [⟨1⟩, ⟨2⟩] := by decide +kernel
    rw [hS, Option.all_some, decide_eq_true_eq] at ends
    have alive : S.Alive := by simp [Alive, ends]
    exact ⟨S, hS, serves, waits, alive, (popped_settled hS).2 _ serves waits alive, ids⟩

def missedPop : List Event :=
  (Request.start.events 0 1 ++ (Request.pull lateSource).events 1 2 ++ .shutdown ::
    List.replicate 4 (.call 1)) ++ .request .stop :: (List.replicate 3 (.call 2) ++
      List.replicate 5 (.consumer 0) ++ [.call 2])

/-- Shutdown is requested after a look and before the pop that it lets begin, which takes an id out of
the source all the same. An id that was popped and is settled may still be pending, if its record
could not be loaded. -/
theorem pop_begun_after_request :
    (∃ B S, (fresh () lateStore 0).run lateEnv
        [.request (.pull lateSource), .call 0, .shutdown] = some B ∧
      B.worker.shutdown = true ∧ B.run lateEnv (List.replicate 5 (.call 0)) = some S ∧
      B.along lateEnv (pullMarks 0) (List.replicate 5 (.call 0)) =
        [.began true, .popped (some ⟨1⟩), .counted ⟨1⟩, .sent ⟨1⟩, .looked true] ∧
      S.tasks[0]? = some ⟨.pull lateSource, .over .done⟩) ∧
    ∃ S s, Serves missedEnv (fresh () lateStore 0) lateSource missedPop S ∧
      .giveUp 2 ∉ missedPop ∧ S.worker.consumers = [.finished] ∧
      (PullMark.answers ((fresh () lateStore 0).along missedEnv (pullMarks 1) missedPop)) =
        [some ⟨1⟩] ∧
      S.worker.store.find? ⟨1⟩ = some s ∧ s.status = .pending := by
  refine ⟨⟨_, _, rfl, rfl, rfl, rfl, rfl⟩, ?_⟩
  obtain ⟨S, s, serves, one, found, pending⟩ : ∃ S s,
      Serves missedEnv (fresh () lateStore 0) lateSource missedPop S ∧
      S.worker.consumers = [.finished] ∧
      S.worker.store.find? ⟨1⟩ = some s ∧ s.status = .pending :=
    ⟨_, _, ⟨[.call 0], _, _, _, _, rfl, rfl, rfl, rfl, rfl, rfl, rfl⟩, rfl, rfl, rfl⟩
  exact ⟨S, s, serves, by decide +kernel, one, by decide +kernel, found, pending⟩

end System

end FixGrader
