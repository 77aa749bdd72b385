import FixGrader.Proofs.Worker.Stopping

namespace FixGrader

section

variable {α : Type}

theorem prefix_of_count_lt [BEq α] {l l₁ l₂ : List α} (h₁ : l₁ <+: l) (h₂ : l₂ <+: l) (a : α)
    (fewer : l₁.count a < l₂.count a) : l₁ <+: l₂ := by
  refine (List.prefix_or_prefix_of_prefix h₁ h₂).resolve_right fun longer => ?_
  have := longer.sublist.count_le a
  omega

end

theorem Call.core_of_stops {c : Call} {i : Nat} (taken : c.stops? = some i) : c.core = c := by
  cases c <;> first | rfl | cases taken

/-- A stop call that has taken a consumer and not sent its message. -/
def Call.owesStop (c : Call) : Bool :=
  match c.core with
  | stopping _ | sendStop _ => true
  | _ => false

theorem Worker.CallTurn.core_stops {σ τ : Type} {env : WorkerEnv σ τ} {w w' : Worker σ τ}
    {c c' : Call} (h : CallTurn env w c w' c') {i : Nat} (taken : c'.core.stops? = some i) :
    c.core.stops? = some i ∨ c = .stop ∧ w.current = some i := by
  cases h.order with
  | spawns => cases taken
  | takes some_ =>
    cases taken
    exact .inr ⟨rfl, some_⟩
  | finds | sends => exact .inl taken
  | other _ _ _ _ _ _ core =>
    obtain same | none_ := core
    · exact .inl (same ▸ taken)
    · cases none_.symm.trans taken

namespace System

variable {σ τ : Type} {env : WorkerEnv σ τ} {S T : System σ τ} {e : Event}
  {events before after : List Event} {service : σ} {store : τ} {clock : Nat}
  {recalled signalled : List (Nat × Nat)}

theorem Alive.finished (alive : S.Alive) {i : Nat} (hi : i < S.worker.consumers.length) :
    S.worker.isOver i = true ↔ S.worker.consumers[i]? = some .finished := by
  have at_ := List.getElem?_eq_getElem hi
  rw [Worker.isOver_iff at_, at_, Option.some.injEq]
  have mem := List.getElem_mem hi
  cases hs : S.worker.consumers[i] with
  | dead => exact absurd (hs ▸ mem) alive
  | _ => simp [Stage.isOver]

theorem Attended.length_over (a : S.Attended recalled) (o : S.InOrder recalled signalled)
    (alive : S.Alive) :
    (recalled.filter fun p => S.worker.isOver p.2).length =
      S.worker.consumers.count .finished := by
  rw [count_eq_length_filter, ← List.length_map Prod.snd]
  have distinct := o.once.sublist
    ((List.filter_sublist (p := fun p => S.worker.isOver p.2)).map Prod.snd)
  refine ((List.perm_ext_iff_of_nodup distinct (List.nodup_range.filter _)).mpr
    fun i => ?_).length_eq
  simp only [List.mem_map, List.mem_filter, List.mem_range, decide_eq_true_eq]
  constructor
  · rintro ⟨p, ⟨mem, gone⟩, rfl⟩
    have hlt := (o.known p mem).1
    exact ⟨hlt, (alive.finished hlt).mp gone⟩
  · rintro ⟨hlt, ended⟩
    have taken := (a.kept i _ ended nofun).resolve_left fun current => a.going i current ended
    obtain ⟨p, mem, rfl⟩ := List.mem_map.mp taken
    exact ⟨p, ⟨mem, (alive.finished hlt).mpr ended⟩, rfl⟩

theorem Alive.isOver_of_going (alive : S.Alive) (a : S.Attended recalled)
    (o : S.InOrder recalled signalled) {i : Nat} (current : S.worker.current = some i) :
    S.worker.isOver i = false := by
  by_contra gone
  rw [Bool.not_eq_false] at gone
  have last := o.last i current
  exact a.going i current ((alive.finished (by omega)).mp gone)

/-- The stop call that finds its consumer over and leaves without a message, with the consumer. -/
def lapses (S : System σ τ) : Event → List (Nat × Nat)
  | .call k =>
    match S.tasks[k]? with
    | some ⟨_, .stopping i⟩ => if S.worker.isOver i then [(k, i)] else []
    | _ => []
  | _ => []

/-- How many stop calls have taken a consumer and not sent their message. -/
def owing (S : System σ τ) : Nat := S.tasks.countP fun t => t.call.owesStop

theorem lapses_eq_nil {k : Nat} {t : Task} (at_ : S.tasks[k]? = some t)
    (other : ∀ i, t.call = .stopping i → S.worker.isOver i = false) :
    S.lapses (.call k) = [] := by
  simp only [lapses]
  split
  · rename_i i ht
    cases at_.symm.trans ht
    simp [other i rfl]
  · rfl

theorem Happens.account (h : Happens env S e T) :
    (S.recalls e).length + S.owing = (S.signals e).length + (S.lapses e).length + T.owing := by
  cases h with
  | request r =>
    have none_ : r.call.owesStop = false := by cases r <;> rfl
    simp [recalls, signals, lapses, owing, none_]
  | wait | shutdown | consumer => simp [recalls, signals, lapses, owing]
  | @giveUp k i deadline r at_ =>
    have same : (S.setCall k ⟨r, .awaitExit i deadline⟩ S.worker (.over .done)).owing = S.owing :=
      countP_set_of_eq at_ rfl
    simp [recalls, signals, lapses, same]
  | @call k t w c at_ turn =>
    obtain ⟨r, d⟩ := t
    have moved : (S.setCall k ⟨r, d⟩ w c).owing + (if d.owesStop then 1 else 0) =
        S.owing + if c.owesStop then 1 else 0 :=
      countP_set_add (fun t : Task => t.call.owesStop) at_ ⟨r, c⟩
    have other (stop : d = .stop → S.worker.current = none) (sendStop : ∀ i, d ≠ .sendStop i)
        (stopping : ∀ i, d = .stopping i → S.worker.isOver i = false)
        (same : c.owesStop = d.owesStop) :
        (S.recalls (.call k)).length + S.owing = (S.signals (.call k)).length +
          (S.lapses (.call k)).length + (S.setCall k ⟨r, d⟩ w c).owing := by
      rw [recalls_eq_nil at_ stop, signals_eq_nil at_ sendStop, lapses_eq_nil at_ stopping]
      rw [same] at moved
      simpa using (Nat.add_right_cancel moved).symm
    cases turn with
    | @stopTake i some_ =>
      have mine : S.recalls (.call k) = [(k, i)] := by simp [recalls, at_, some_]
      rw [mine, signals_eq_nil at_ (by simp), lapses_eq_nil at_ (by simp)]
      simpa [Nat.add_comm, Call.owesStop, Call.core] using moved.symm
    | @stopOver i ended =>
      have mine : S.lapses (.call k) = [(k, i)] := by simp [lapses, at_, ended]
      rw [mine, recalls_eq_nil at_ (by simp), signals_eq_nil at_ (by simp)]
      simpa [Nat.add_comm, Call.owesStop, Call.core] using moved.symm
    | @sendStop i =>
      have mine : S.signals (.call k) = [(k, i)] := by simp [signals, at_]
      rw [mine, recalls_eq_nil at_ (by simp), lapses_eq_nil at_ (by simp)]
      simpa [Nat.add_comm, Call.owesStop, Call.core] using moved.symm
    | stopNone none_ => exact other (fun _ => none_) (by simp) (by simp) rfl
    | stopLive live =>
      refine other (by simp) (by simp) (fun i now => ?_) rfl
      cases now
      exact live
    | submitFault | loadFault | restoreFault =>
      rename_i f _ _
      exact other (by simp) (by simp) (by simp) (by cases f <;> rfl)
    | _ => exact other (by simp) (by simp) (by simp) rfl

theorem account (h : (fresh service store clock).run env events = some S) :
    ((fresh service store clock).along env recalls events).length =
      ((fresh service store clock).along env signals events).length +
        ((fresh service store clock).along env lapses events).length + S.owing := by
  refine run_induction (motive := fun events S =>
    ((fresh service store clock).along env recalls events).length =
      ((fresh service store clock).along env signals events).length +
        ((fresh service store clock).along env lapses events).length + S.owing) rfl ?_ h
  intro events R e T hR ih hT
  have next := (happens_of_step hT).account
  rw [along_concat recalls hR, along_concat signals hR, along_concat lapses hR]
  simp only [List.length_append]
  omega

/-- Of the calls that took the consumers that go on, each has a message in the queue, or owes one, or
has lapsed. -/
theorem Attended.balance (a : S.Attended recalled) (o : S.InOrder recalled signalled)
    (alive : S.Alive) {lapsed : Nat} (accounts : recalled.length = signalled.length + lapsed + S.owing) :
    S.worker.queue.count .stop + S.owing + lapsed =
      (recalled.filter fun p => !S.worker.isOver p.2).length := by
  have byOver : recalled.length = (recalled.filter fun p => S.worker.isOver p.2).length +
      (recalled.filter fun p => !S.worker.isOver p.2).length :=
    List.length_eq_length_filter_add _
  rw [a.length_over o alive] at byOver
  rw [o.balance] at accounts
  omega

theorem count_posts (S : System σ τ) (events : List Event) :
    (S.along env posts events).count .stop = (S.along env signals events).length := by
  have one : ∀ (S : System σ τ) e, (S.posts e).count .stop = (S.signals e).length := by
    intro S e
    cases e with
    | call k =>
      simp only [posts, signals]
      cases S.tasks[k]? with
      | none => rfl
      | some t =>
        obtain ⟨r, c⟩ := t
        cases c <;> rfl
    | _ => rfl
  induction events generalizing S with
  | nil => rfl
  | cons e events ih =>
    simp only [along, List.count_append, List.length_append, one]
    cases S.step env e <;> simp [ih]

theorem count_taken (inTurn : (fresh service store clock).along env overtakes events = [])
    (h : (fresh service store clock).run env events = some S) :
    (Mark.taken ((fresh service store clock).along env marks events)).count .stop =
      S.worker.consumers.count .finished := by
  have sent : ((fresh service store clock).along env posts events).count .stop =
      ((fresh service store clock).along env signals events).length := count_posts _ events
  rw [posts_eq h, List.count_append, (inOrder inTurn h).balance] at sent
  omega

/-- What is settled was taken first, and all stop messages that were taken were taken before it or
right after it. -/
theorem Agrees.settled_eq {marks : List Mark} (agrees : S.Agrees marks) :
    ∃ done, done <+: Mark.taken marks ∧
      done.count .stop = (Mark.taken marks).count .stop ∧
      (Ledger.ofMarks marks).settled = Message.ids done := by
  by_cases rests : ∀ stage ∈ S.worker.consumers, stage.isBusy = false
  · exact ⟨_, List.prefix_rfl, rfl, agrees.rests rests⟩
  · obtain ⟨stage, mem, busy⟩ : ∃ stage ∈ S.worker.consumers, stage.isBusy = true := by
      simpa using rests
    obtain ⟨i, at_⟩ := List.getElem?_of_mem mem
    obtain ⟨before, id, taken, _, settled⟩ := agrees.busy i stage at_ busy
    refine ⟨before, ?_, ?_, settled⟩ <;> rw [taken]
    · exact List.prefix_append ..
    · have other : Message.score id ≠ .stop := nofun
      rw [List.count_append, List.count_singleton, beq_false_of_ne other]
      rfl

theorem InOrder.length_signalled (o : S.InOrder recalled signalled) {i : Nat}
    (current : S.worker.current = some i) : signalled.length ≤ i := by
  have earlier : signalled.map Prod.snd ⊆ List.range i := by
    intro j hj
    obtain ⟨p, mem, rfl⟩ := List.mem_map.mp hj
    obtain ⟨hlt, ne⟩ := o.known p (o.sent.2 mem)
    rw [current, ne_eq, Option.some.injEq] at ne
    have last := o.last i current
    exact List.mem_range.mpr (by omega)
  simpa using (o.nodup_signalled.subperm earlier).length_le

theorem Happens.length_consumers (h : Happens env S e T) :
    S.worker.consumers.length ≤ T.worker.consumers.length := by
  cases h with
  | request | giveUp | wait | shutdown => exact Nat.le_refl _
  | call _ turn =>
    rcases turn.consumers with hc | hc <;> simp [setCall, hc]
  | consumer turn =>
    obtain ⟨_, _, _, set, _⟩ := turn.consumers
    simp [set]

theorem length_signals_le {B : System σ τ} {k : Nat}
    (inTurn : (fresh service store clock).along env overtakes (before ++ after) = [])
    (hB : (fresh service store clock).run env before = some B) (new : B.tasks.length ≤ k)
    (hS : B.run env after = some S) {t : Task} {i : Nat} (at_ : S.tasks[k]? = some t)
    (taken : t.call.core.stops? = some i) :
    ((fresh service store clock).along env signals before).length ≤ i ∧
      i < S.worker.consumers.length := by
  revert inTurn t i
  refine run_induction (motive := fun after S =>
    (fresh service store clock).along env overtakes (before ++ after) = [] →
      ∀ {t : Task} {i : Nat}, S.tasks[k]? = some t → t.call.core.stops? = some i →
        ((fresh service store clock).along env signals before).length ≤ i ∧
          i < S.worker.consumers.length) ?_ ?_ hS
  · intro _ t i at_
    have := (List.getElem?_eq_some_iff.mp at_).1
    omega
  · intro after R e T hR ih hT inTurn u i at_ taken
    have hap := happens_of_step hT
    have grown := hap.length_consumers
    have upTo := run_append_eq_some.mpr ⟨B, hB, hR⟩
    rw [← List.append_assoc, along_concat overtakes upTo] at inTurn
    have inTurn := (List.append_eq_nil_iff.mp inTurn).1
    have known : ∀ t : Task, R.tasks[k]? = some t → t.call.core.stops? = some i →
        ((fresh service store clock).along env signals before).length ≤ i ∧
          i < T.worker.consumers.length := fun t at_ taken =>
      (ih inTurn at_ taken).imp_right (Nat.lt_of_lt_of_le · grown)
    -- Which consumer the call is about is settled by the step in which it takes that.
    obtain ⟨_, same⟩ | ⟨r, _, _, rfl⟩ | ⟨t, _, at_', _, turn⟩ | ended := hap.task_cases at_
    · exact known u same taken
    · cases r <;> cases taken
    · obtain before_ | ⟨_, current⟩ := turn.core_stops taken
      · exact known t at_' before_
      · have o := inOrder inTurn upTo
        have most := o.length_signalled current
        have last := o.last i current
        rw [along_append signals hB, List.length_append] at most
        omega
    · rw [ended] at taken
      cases taken

theorem InOrder.lt_count_finished (o : S.InOrder recalled signalled) (alive : S.Alive) {i : Nat}
    (hi : i < S.worker.consumers.length) (gone : S.worker.isOver i = true) :
    i < S.worker.consumers.count .finished := by
  have earlier : List.range (i + 1) ⊆ (List.range S.worker.consumers.length).filter
      fun j => S.worker.consumers[j]? = some .finished := by
    intro j hj
    have hji := List.mem_range.mp hj
    have hj : j < S.worker.consumers.length := by omega
    have ended := (alive.finished hi).mp gone
    have gone : S.worker.isOver j = true := by
      by_cases same : j = i
      · exact same ▸ gone
      · exact o.first j i .finished ended nofun (by omega)
    exact List.mem_filter.mpr ⟨List.mem_range.mpr hj, decide_eq_true ((alive.finished hj).mp gone)⟩
  have bound := (List.nodup_range.subperm earlier).length_le
  rwa [List.length_range, ← count_eq_length_filter] at bound

theorem drained {B : System σ τ} {k : Nat}
    (inTurn : (fresh service store clock).along env overtakes (before ++ after) = [])
    (hB : (fresh service store clock).run env before = some B) (new : B.tasks.length ≤ k)
    (hS : B.run env after = some S) (alive : S.Alive) {t : Task} {i : Nat}
    (at_ : S.tasks[k]? = some t) (taken : t.call.core.stops? = some i)
    (gone : S.worker.isOver i = true) :
    (fresh service store clock).along env sends before <+:
      (Ledger.ofMarks ((fresh service store clock).along env marks (before ++ after))).settled := by
  have h := run_append_eq_some.mpr ⟨B, hB, hS⟩
  obtain ⟨early, known⟩ := length_signals_le inTurn hB new hS at_ taken
  have later := (inOrder inTurn h).lt_count_finished alive known gone
  obtain ⟨done, doneFirst, stops, settled⟩ := (agrees alive h).settled_eq
  have sentFirst := along_isPrefix posts hB after
  have takenFirst := taken_isPrefix h
  -- More stop messages were taken than had been sent before the call.
  rw [settled, along_sends]
  refine (prefix_of_count_lt sentFirst (doneFirst.trans takenFirst) .stop ?_).filterMap _
  rw [stops, count_taken inTurn h, count_posts]
  omega

theorem Happens.current_isSome (h : Happens env S e T) (some_ : S.worker.current.isSome = true)
    (kept : S.recalls e = []) : T.worker.current.isSome = true := by
  cases h with
  | request | giveUp | wait | shutdown => exact some_
  | @call k t w c at_ turn =>
    obtain ⟨r, now⟩ := t
    cases turn.order with
    | spawns idle => simp [setCall, Worker.start_of_idle idle]
    | takes at_current => simp [recalls, at_, at_current] at kept
    | finds | sends => exact some_
    | other _ current => exact current ▸ some_
  | consumer turn => exact turn.current ▸ some_

theorem current_isSome {B : System σ τ} (hB : B.run env events = some S)
    (some_ : B.worker.current.isSome = true) (kept : B.along env recalls events = []) :
    S.worker.current.isSome = true := by
  revert kept
  refine run_induction (motive := fun events S => B.along env recalls events = [] →
    S.worker.current.isSome = true) (fun _ => some_) ?_ hB
  intro events R e T hR ih hT kept
  rw [along_concat recalls hR] at kept
  obtain ⟨before, now⟩ := List.append_eq_nil_iff.mp kept
  exact (happens_of_step hT).current_isSome (ih before) now

theorem current_isSome_of_start {B : System σ τ} {k : Nat} {r : Request}
    (hS : B.run env (.call k :: after) = some S) (at_ : B.tasks[k]? = some ⟨r, .start⟩)
    (kept : B.along env recalls (.call k :: after) = []) : S.worker.current.isSome = true := by
  obtain ⟨T, hT, hS⟩ := Option.bind_eq_some_iff.mp hS
  have started : T.worker.current.isSome = true := by
    cases happens_of_step hT with
    | call at_' turn =>
      cases at_.symm.trans at_'
      cases turn with
      | start =>
        cases idle : B.worker.isRunning
        · simp [setCall, Worker.start_of_idle idle]
        · obtain ⟨i, current, _⟩ := (Option.any_eq_true _ _).mp idle
          simp [setCall, Worker.start, idle, current]
  refine current_isSome hS started ?_
  simpa [along, hT] using (List.append_eq_nil_iff.mp kept).2

/-- If no consumer has died and consumers come to the queue in the order in which they were started:
one consumer has the queue; the stop messages in the queue, the stop calls that have taken a consumer
and not sent theirs, and the stop calls that left because they found theirs over, are as many as the
consumers that were taken and go on; the current consumer goes on, so the worker is running from a
start on until a stop call takes the consumer; and when a stop call sees its consumer over, all ids
that were sent before the call are settled. -/
theorem one_consumer_balanced (h : (fresh service store clock).run env events = some S)
    (alive : S.Alive) (inTurn : (fresh service store clock).along env overtakes events = []) :
    S.worker.OneHasQueue ∧
      (S.worker.queue.count .stop + S.owing +
          ((fresh service store clock).along env lapses events).length =
        (((fresh service store clock).along env recalls events).filter
          fun p => !S.worker.isOver p.2).length) ∧
      (∀ i, S.worker.current = some i → S.worker.isOver i = false) ∧
      (∀ before k r after B, events = before ++ .call k :: after →
        (fresh service store clock).run env before = some B →
        B.tasks[k]? = some ⟨r, .start⟩ → B.along env recalls (.call k :: after) = [] →
        S.worker.isRunning = true) ∧
      ∀ before after B t i, events = before ++ .request .stop :: after →
        (fresh service store clock).run env before = some B →
        S.tasks[B.tasks.length]? = some t → t.call.stops? = some i →
        S.worker.isOver i = true →
        (fresh service store clock).along env sends before <+:
          (Ledger.ofMarks ((fresh service store clock).along env marks events)).settled := by
  have o := inOrder inTurn h
  have a := attended inTurn h alive.spared
  have going : ∀ i, S.worker.current = some i → S.worker.isOver i = false :=
    fun i current => alive.isOver_of_going a o current
  refine ⟨oneHasQueue h, a.balance o alive (account h), going, ?_, ?_⟩
  · rintro before k r after B rfl hB at_ kept
    have hS := run_of_append h hB
    obtain ⟨i, current⟩ := Option.isSome_iff_exists.mp (current_isSome_of_start hS at_ kept)
    simp [Worker.isRunning, current, going i current]
  · rintro before after B t i rfl hB at_ taken gone
    have hS := run_of_append h hB
    refine drained inTurn hB (Nat.le_refl _) hS alive at_ ?_ gone
    rwa [Call.core_of_stops taken]

def overlapEnv : WorkerEnv Unit CountedStore :=
  .ofOutcome (fun _ => none) (fun _ => none) fun _ code => .assessed (.graded .failed 0 code)

def overlapStore : CountedStore :=
  { store := ⟨[.fresh ⟨1⟩ (overlapEnv.date 0) "sqli_001" "one" none,
      .fresh ⟨2⟩ (overlapEnv.date 0) "xss_001" "two" none]⟩ }

def overlapBefore : List Event :=
  Request.start.events 0 1 ++ (Request.enqueue ⟨1⟩).events 1 2 ++ List.replicate 3 (.consumer 0)

/-- While the first consumer drains, a second one is started and taken by a stop call that has sent
nothing yet. -/
def overlapMiddle : List Event :=
  List.replicate 3 (.call 2) ++ Request.start.events 3 1 ++ (Request.enqueue ⟨2⟩).events 4 2 ++
    Request.stop.events 5 1 ++ [.request .start]

/-- A third one is started. The first one ends, and the second one comes to the queue. -/
def overlapAfter : List Event :=
  .consumer 0 :: .wait 5 :: List.replicate 4 (.consumer 0) ++ List.replicate 2 (.consumer 1)

def overlapEvents : List Event :=
  overlapBefore ++ .request .stop :: (overlapMiddle ++ .call 6 :: overlapAfter)

theorem one_consumer_balanced_overlap :
    (fresh () overlapStore 0).along overlapEnv overtakes overlapEvents = [] ∧
      (fresh () overlapStore 0).along overlapEnv recalls overlapEvents = [(2, 0), (5, 1)] ∧
      (fresh () overlapStore 0).along overlapEnv lapses overlapEvents = [] ∧
      ∃ S, (fresh () overlapStore 0).run overlapEnv overlapEvents = some S ∧ S.Alive ∧
        S.worker.consumers = [.finished, .loading ⟨2⟩, .waiting] ∧ S.worker.OneHasQueue ∧
        S.worker.queue.count .stop + S.owing + 0 =
          ([(2, 0), (5, 1)].filter fun p => !S.worker.isOver p.2).length ∧
        S.worker.isRunning = true ∧
        (fresh () overlapStore 0).along overlapEnv sends overlapBefore <+:
          (Ledger.ofMarks ((fresh () overlapStore 0).along overlapEnv marks
            overlapEvents)).settled := by
  have inTurn : (fresh () overlapStore 0).along overlapEnv overtakes overlapEvents = [] := by
    decide +kernel
  have recalled : (fresh () overlapStore 0).along overlapEnv recalls overlapEvents =
      [(2, 0), (5, 1)] := by decide +kernel
  have lapsed : (fresh () overlapStore 0).along overlapEnv lapses overlapEvents = [] := by
    decide +kernel
  have first : ((fresh () overlapStore 0).run overlapEnv overlapBefore).any (fun B =>
      decide (B.tasks.length = 2)) = true := by decide +kernel
  have second : ((fresh () overlapStore 0).run overlapEnv
      (overlapBefore ++ .request .stop :: overlapMiddle)).any (fun C =>
        (C.tasks[6]?).any (fun t => decide (t.request = .start) && t.call matches .start) &&
        decide (C.along overlapEnv recalls (.call 6 :: overlapAfter) = [])) = true := by
    decide +kernel
  have last : ((fresh () overlapStore 0).run overlapEnv overlapEvents).any (fun S =>
      decide (S.worker.consumers = [.finished, .loading ⟨2⟩, .waiting]) &&
      (S.tasks[2]?).any fun t => decide (t.call.stops? = some 0)) = true := by decide +kernel
  obtain ⟨B, hB, first⟩ := (Option.any_eq_true _ _).mp first
  obtain ⟨C, hC, second⟩ := (Option.any_eq_true _ _).mp second
  obtain ⟨S, hS, last⟩ := (Option.any_eq_true _ _).mp last
  simp only [Bool.and_eq_true, decide_eq_true_eq, Option.any_eq_true] at first second last
  obtain ⟨⟨⟨r, c⟩, start_, _, call_⟩, kept⟩ := second
  obtain ⟨three, t, at_, taken⟩ := last
  have starts : c = .start := by
    split at call_
    · assumption
    · cases call_
  subst starts
  have alive : S.Alive := by simp [Alive, three]
  obtain ⟨one, balance, _, running, settled⟩ := one_consumer_balanced hS alive inTurn
  have gone : S.worker.isOver 0 = true := by simp [Worker.isOver, three, Stage.isOver]
  rw [recalled, lapsed] at balance
  refine ⟨inTurn, recalled, lapsed, S, hS, alive, three, one, balance, ?_, ?_⟩
  · exact running (overlapBefore ++ .request .stop :: overlapMiddle) 6 r overlapAfter C
      (by simp [overlapEvents]) hC start_ kept
  · exact settled overlapBefore _ B t 0 rfl hB (by rw [first]; exact at_) taken gone

/-- The second stop call has taken the second consumer when that ends by the message of the third. -/
def lapseEvents : List Event :=
  Request.start.events 0 1 ++ Request.stop.events 1 3 ++ Request.start.events 2 1 ++
    Request.stop.events 3 1 ++ Request.start.events 4 1 ++ Request.stop.events 5 3 ++
    List.replicate 2 (.consumer 0) ++ List.replicate 2 (.consumer 1) ++ [.call 3]

def missedEnv : WorkerEnv Unit CountedStore :=
  .ofOutcome (fun n => if n = 0 then some (.fails (.unreachable "down")) else none)
    (fun _ => none) fun _ code => .assessed (.graded .failed 0 code)

def missedEvents : List Event :=
  Request.start.events 0 1 ++ (Request.enqueue ⟨1⟩).events 1 2 ++ Request.stop.events 2 3 ++
    List.replicate 5 (.consumer 0) ++ [.call 2]

/-- Once a stop call has lapsed, the messages in the queue and the calls that are still to send one
may be fewer than the consumers that were taken and go on. An id that is settled when a stop call sees
its consumer over may still be pending, if its record could not be loaded. -/
theorem lapsed_stop_unbalanced :
    (∃ S, (fresh () overlapStore 0).run overlapEnv lapseEvents = some S ∧ S.Alive ∧
      (fresh () overlapStore 0).along overlapEnv overtakes lapseEvents = [] ∧
      S.worker.consumers = [.finished, .finished, .waiting] ∧
      S.worker.queue.count .stop + S.owing <
        (((fresh () overlapStore 0).along overlapEnv recalls lapseEvents).filter
          fun p => !S.worker.isOver p.2).length) ∧
    ∃ S s, (fresh () overlapStore 0).run missedEnv missedEvents = some S ∧ S.Alive ∧
      (fresh () overlapStore 0).along missedEnv overtakes missedEvents = [] ∧
      S.tasks[2]? = some ⟨.stop, .over .done⟩ ∧ S.worker.consumers = [.finished] ∧
      S.worker.store.find? ⟨1⟩ = some s ∧ s.status = .pending := by
  constructor
  · have recalled : (fresh () overlapStore 0).along overlapEnv recalls lapseEvents =
        [(1, 0), (3, 1), (5, 2)] := by decide +kernel
    have goes : ((fresh () overlapStore 0).run overlapEnv lapseEvents).any (fun S =>
        decide (S.worker.consumers = [.finished, .finished, .waiting] ∧ S.worker.queue = [] ∧
          S.owing = 0)) = true := by decide +kernel
    obtain ⟨S, hS, goes⟩ := (Option.any_eq_true _ _).mp goes
    obtain ⟨three, queue, owing⟩ := of_decide_eq_true goes
    refine ⟨S, hS, by simp [Alive, three], by decide +kernel, three, ?_⟩
    simp [recalled, queue, owing, Worker.isOver, three, Stage.isOver]
  · obtain ⟨S, s, hS, over_, one, found, pending⟩ : ∃ S s,
        (fresh () overlapStore 0).run missedEnv missedEvents = some S ∧
        S.tasks[2]? = some ⟨.stop, .over .done⟩ ∧ S.worker.consumers = [.finished] ∧
        S.worker.store.find? ⟨1⟩ = some s ∧ s.status = .pending :=
      ⟨_, _, rfl, rfl, rfl, rfl, rfl⟩
    exact ⟨S, s, hS, by simp [Alive, one], by decide +kernel, over_, one, found, pending⟩

end System

end FixGrader
