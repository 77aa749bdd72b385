import FixGrader.Proofs.Worker.Ledger
import FixGrader.Proofs.Worker.Records
import Mathlib.Data.List.Nodup
import Mathlib.Data.List.Perm.Subperm

namespace FixGrader

/-- The consumer that a stop call has taken from the worker and is still busy with. -/
def Call.stops? : Call → Option Nat
  | stopping i | sendStop i | awaitExit i _ => some i
  | _ => none

section

variable {α : Type}

theorem count_eq_length_filter [DecidableEq α] (l : List α) (a : α) :
    l.count a = ((List.range l.length).filter fun i => l[i]? = some a).length := by
  induction l using List.reverseRecOn with
  | nil => rfl
  | append_singleton l x ih =>
    have old : (List.range l.length).filter (fun i => (l ++ [x])[i]? = some a) =
        (List.range l.length).filter fun i => l[i]? = some a := by
      refine List.filter_congr fun i hi => ?_
      rw [List.getElem?_append_left (List.mem_range.mp hi)]
    rw [List.count_append, ih, List.length_append, List.length_singleton, List.range_succ,
      List.filter_append, List.length_append, old]
    by_cases hx : x = a <;> simp [hx]

end

namespace Worker

variable {σ τ : Type} {env : WorkerEnv σ τ} {w w' : Worker σ τ} {i : Nat} {c c' : Call}

theorem start_of_idle (idle : w.isRunning = false) :
    w.start = { w with
      current := some w.consumers.length
      consumers := w.consumers ++ [.waiting] } := by
  simp [Worker.start, idle]

/-- What one step of a call does to consumers and to the stop messages. -/
inductive Order (w : Worker σ τ) : Call → Worker σ τ → Call → Prop
  | spawns (idle : w.isRunning = false) :
      Order w .start w.start (.over .done)
  | takes {i : Nat} (some_ : w.current = some i) :
      Order w .stop { w with current := none } (.stopping i)
  | finds {i : Nat} (live : w.isOver i = false) : Order w (.stopping i) w (.sendStop i)
  | sends {i : Nat} (deadline : Nat) :
      Order w (.sendStop i) { w with queue := w.queue ++ [.stop] } (.awaitExit i deadline)
  | other {c c' : Call} {w' : Worker σ τ} (consumers : w'.consumers = w.consumers)
      (current : w'.current = w.current) (queue : w'.queue.count .stop = w.queue.count .stop)
      (stop : c = .stop → w.current = none) (sendStop : ∀ i, c ≠ .sendStop i)
      (start : c = .start → w.isRunning = true)
      (core : c'.core = c.core ∨ c'.core.stops? = none) : Order w c w' c'

theorem CallTurn.order (h : CallTurn env w c w' c') : w.Order c w' c' := by
  cases h with
  | start =>
    cases running : w.isRunning with
    | true =>
      have same : w.start = w := by rw [Worker.start, running, if_pos rfl]
      rw [same]
      exact .other rfl rfl rfl nofun nofun (fun _ => running) (.inr rfl)
    | false => exact .spawns running
  | stopNone none_ => exact .other rfl rfl rfl (fun _ => none_) nofun nofun (.inr rfl)
  | stopTake some_ => exact .takes some_
  | stopLive live => exact .finds live
  | sendStop => exact .sends _
  | count => exact .other rfl rfl rfl nofun nofun nofun (.inl rfl)
  | send =>
    refine .other rfl rfl ?_ nofun nofun nofun (.inl rfl)
    simp
  | submitFault | loadFault | restoreFault =>
    rename_i f _ _
    exact .other rfl rfl rfl nofun nofun nofun (.inr (by cases f <;> rfl))
  | _ => exact .other rfl rfl rfl nofun nofun nofun (.inr rfl)

theorem Turn.current (h : Turn env w i w') : w'.current = w.current := by
  cases h <;> rfl

theorem isOver_of_free {stage : Stage} (free : stage.hasQueue = false) (ne : stage ≠ .waiting) :
    stage.isOver = true := by
  cases stage <;> first | exact absurd rfl ne | rfl | cases free

theorem isOver_iff {stage : Stage} (at_ : w.consumers[i]? = some stage) :
    w.isOver i = true ↔ stage.isOver = true := by
  simp [isOver, at_]

theorem count_finished_set {l : List Stage} {old : Stage} (at_ : l[i]? = some old) (new : Stage)
    (ne : old ≠ .finished) (ne' : new ≠ .finished) :
    (l.set i new).count .finished = l.count .finished :=
  countP_set_of_eq at_ (by simp [ne, ne'])

theorem ne_finished_of_works {stage : Stage} (works : stage.works = true) :
    stage ≠ .finished := by
  rintro rfl
  cases works

theorem Deal.stages (deal : w.Deal i w') :
    ∃ old new, w.consumers[i]? = some old ∧ w'.consumers = w.consumers.set i new ∧
      new ≠ .waiting ∧ (old = .waiting → ∀ stage ∈ w.consumers, stage.hasQueue = false) := by
  cases deal with
  | enters at_ set alone => exact ⟨_, _, at_, set, nofun, fun _ => alone⟩
  | goesOn at_ set works works' =>
    refine ⟨_, _, at_, set, ?_, ?_⟩
    · rintro rfl
      cases works'
    · rintro rfl
      cases works
  | returns at_ set works | dies at_ set works =>
    refine ⟨_, _, at_, set, nofun, ?_⟩
    rintro rfl
    cases works
  | halts at_ set | takes at_ set | acknowledges at_ set => exact ⟨_, _, at_, set, nofun, nofun⟩

theorem Deal.isOver (deal : w.Deal i w') {j : Nat} (ended : w.isOver j = true) :
    w'.isOver j = true := by
  obtain ⟨old, new, at_, set, _⟩ := deal.stages
  by_cases hij : i = j
  · subst hij
    have live := deal.live at_
    simp [(isOver_iff at_).mp ended] at live
  · rwa [Worker.isOver, set, List.getElem?_set_ne hij, ← Worker.isOver]

theorem Deal.finishes (deal : w.Deal i w') (now : w'.consumers[i]? = some .finished) :
    w.consumers[i]? = some .receiving ∧ w.queue = .stop :: w'.queue := by
  cases deal with
  | halts at_ _ _ queue => exact ⟨at_, queue⟩
  | enters at_ set | dies at_ set | returns at_ set | takes at_ set | acknowledges at_ set =>
    rw [stage_of_set at_ set] at now
    cases now
  | goesOn at_ set _ works' =>
    rw [stage_of_set at_ set] at now
    cases now
    cases works'

theorem Deal.balance (deal : w.Deal i w') :
    w'.consumers.count .finished + w'.queue.count .stop =
      w.consumers.count .finished + w.queue.count .stop := by
  cases deal with
  | enters at_ set _ _ queue | acknowledges at_ set _ queue =>
    rw [set, queue, count_finished_set at_ .receiving nofun nofun]
  | goesOn at_ set works works' _ queue =>
    rw [set, queue,
      count_finished_set at_ _ (ne_finished_of_works works) (ne_finished_of_works works')]
  | returns at_ set works _ queue =>
    rw [set, queue, count_finished_set at_ .acknowledging (ne_finished_of_works works) nofun]
  | dies at_ set works _ queue =>
    rw [set, queue, count_finished_set at_ .dead (ne_finished_of_works works) nofun]
  | @takes id at_ set _ queue =>
    have other : Message.score id ≠ .stop := nofun
    rw [set, queue, count_finished_set at_ (.loading id) nofun nofun, List.count_cons_of_ne other]
  | halts at_ set _ queue =>
    have more : (w.consumers.set i .finished).count .finished =
        w.consumers.count .finished + 1 := countP_set_add (· == Stage.finished) at_ .finished
    rw [set, queue, more, List.count_cons_self]
    omega

end Worker

namespace System

variable {σ τ : Type} {env : WorkerEnv σ τ} {S T : System σ τ} {e : Event} {events : List Event}
  {service : σ} {store : τ} {clock : Nat} {recalled signalled : List (Nat × Nat)}

/-- The stop call that takes a consumer from the worker, with the consumer. -/
def recalls (S : System σ τ) : Event → List (Nat × Nat)
  | .call k =>
    match S.tasks[k]?, S.worker.current with
    | some ⟨_, .stop⟩, some i => [(k, i)]
    | _, _ => []
  | _ => []

/-- The stop call that sends its message, with the consumer that it has taken. -/
def signals (S : System σ τ) : Event → List (Nat × Nat)
  | .call k =>
    match S.tasks[k]? with
    | some ⟨_, .sendStop i⟩ => [(k, i)]
    | _ => []
  | _ => []

def overtakes (S : System σ τ) : Event → List Nat
  | .consumer i =>
    if S.worker.consumers[i]? = some .waiting ∧ .waiting ∈ S.worker.consumers.take i then [i]
    else []
  | _ => []

/-- Consumers come to the queue in the order in which they were started, and stop calls account for
the stop messages. -/
structure InOrder (S : System σ τ) (recalled signalled : List (Nat × Nat)) : Prop where
  first : ∀ (i j : Nat) (stage : Stage), S.worker.consumers[j]? = some stage → stage ≠ .waiting →
    i < j → S.worker.isOver i = true
  last : ∀ i, S.worker.current = some i → i + 1 = S.worker.consumers.length
  known : ∀ p ∈ recalled, p.2 < S.worker.consumers.length ∧ S.worker.current ≠ some p.2
  once : (recalled.map Prod.snd).Nodup
  asked : ∀ (k : Nat) (t : Task) (i : Nat), S.tasks[k]? = some t →
    t.call.core = .stopping i ∨ t.call.core = .sendStop i → (k, i) ∈ recalled ∧ (k, i) ∉ signalled
  sent : signalled.Nodup ∧ signalled ⊆ recalled
  balance : signalled.length = S.worker.consumers.count .finished + S.worker.queue.count .stop

theorem InOrder.congr (o : S.InOrder recalled signalled)
    (consumers : T.worker.consumers = S.worker.consumers)
    (current : T.worker.current = S.worker.current)
    (queue : T.worker.queue.count .stop = S.worker.queue.count .stop)
    (tasks : ∀ (k : Nat) (t : Task), T.tasks[k]? = some t →
      (∃ u, S.tasks[k]? = some u ∧ t.call.core = u.call.core) ∨ t.call.core.stops? = none) :
    T.InOrder recalled signalled where
  first := by
    unfold Worker.isOver
    rw [consumers]
    exact o.first
  last := by
    rw [consumers, current]
    exact o.last
  known := by
    rw [consumers, current]
    exact o.known
  once := o.once
  asked k t i at_ core := by
    obtain ⟨u, before, same⟩ | ended := tasks k t at_
    · exact o.asked k u i before (by rwa [← same])
    · rcases core with core | core <;> rw [core] at ended <;> cases ended
  sent := o.sent
  balance := by
    rw [consumers, queue]
    exact o.balance

theorem InOrder.of_deal (o : S.InOrder recalled signalled) {i : Nat} {w : Worker σ τ}
    (deal : S.worker.Deal i w) (current : w.current = S.worker.current)
    (inTurn : S.overtakes (.consumer i) = []) : InOrder ⟨w, S.tasks⟩ recalled signalled := by
  obtain ⟨old, new, at_, set, _, free⟩ := deal.stages
  have length : w.consumers.length = S.worker.consumers.length := by rw [set, List.length_set]
  refine ⟨fun a b stage hb ne hab => deal.isOver ?_, ?_, ?_, o.once, o.asked, o.sent, ?_⟩
  · simp only [set] at hb
    obtain ⟨rfl, rfl⟩ | ⟨_, hb⟩ := getElem?_set_cases hb
    · by_cases waits : old = .waiting
      · -- All that were started earlier have been at the queue, and nobody is there now.
        subst waits
        have ha : a < S.worker.consumers.length := by
          have := (List.getElem?_eq_some_iff.mp at_).1
          omega
        have others : .waiting ∉ S.worker.consumers.take i := by
          intro mem
          simp [overtakes, at_, mem] at inTurn
        have came : S.worker.consumers[a] ≠ .waiting := by
          intro waits
          exact others (List.mem_take_iff_getElem.mpr ⟨a, by omega, waits⟩)
        refine (Worker.isOver_iff (List.getElem?_eq_getElem ha)).mpr ?_
        exact Worker.isOver_of_free (free rfl _ (List.getElem_mem ha)) came
      · exact o.first a i old at_ waits hab
    · exact o.first a b stage hb ne hab
  · rw [length, current]
    exact o.last
  · rw [length, current]
    exact o.known
  · rw [o.balance, deal.balance]

theorem recalls_eq_nil {k : Nat} {t : Task} (at_ : S.tasks[k]? = some t)
    (stop : t.call = .stop → S.worker.current = none) : S.recalls (.call k) = [] := by
  simp only [recalls]
  split
  · rename_i ht hi
    cases at_.symm.trans ht
    simp [stop rfl] at hi
  · rfl

theorem signals_eq_nil {k : Nat} {t : Task} (at_ : S.tasks[k]? = some t)
    (other : ∀ i, t.call ≠ .sendStop i) : S.signals (.call k) = [] := by
  simp only [signals]
  split
  · rename_i i ht
    cases at_.symm.trans ht
    exact absurd rfl (other i)
  · rfl

theorem setCall_cases {k l : Nat} {t u : Task} {w : Worker σ τ} {c : Call}
    (at_ : (S.setCall k t w c).tasks[l]? = some u) :
    l = k ∧ u.call = c ∨ l ≠ k ∧ S.tasks[l]? = some u := by
  obtain ⟨rfl, rfl⟩ | ⟨ne, at_⟩ := getElem?_set_cases at_
  · exact .inl ⟨rfl, rfl⟩
  · exact .inr ⟨ne.symm, at_⟩

theorem InOrder.of_spawn (o : S.InOrder recalled signalled) {k : Nat} {t : Task}
    (idle : S.worker.isRunning = false) :
    (S.setCall k t S.worker.start (.over .done)).InOrder recalled signalled := by
  simp only [setCall, Worker.start_of_idle idle]
  refine ⟨fun a b stage hb ne hab => ?_, fun i hi => ?_, fun p hp => ?_, o.once,
    fun l u i hu core => ?_, o.sent, ?_⟩
  · obtain hb | ⟨_, rfl⟩ := getElem?_concat_cases hb
    · have gone := o.first a b stage hb ne hab
      have ha : a < S.worker.consumers.length :=
        Nat.lt_trans hab (List.getElem?_eq_some_iff.mp hb).1
      simpa [Worker.isOver, List.getElem?_append_left ha] using gone
    · exact absurd rfl ne
  · cases hi
    simp
  · have known := (o.known p hp).1
    simp only [List.length_append, List.length_singleton, ne_eq, Option.some.injEq]
    omega
  · obtain ⟨_, ended⟩ | ⟨_, before⟩ := setCall_cases (w := S.worker) hu
    · rw [ended] at core
      rcases core with core | core <;> cases core
    · exact o.asked l u i before core
  · simp [o.balance, List.count_append]

/-- The consumer that is taken from the worker was the last one, and was not taken before. -/
theorem InOrder.of_take (o : S.InOrder recalled signalled) {k i : Nat} {t : Task}
    (some_ : S.worker.current = some i) :
    (S.setCall k t { S.worker with current := none } (.stopping i)).InOrder
      (recalled ++ [(k, i)]) signalled := by
  have fresh_ : (k, i) ∉ recalled := fun mem => (o.known _ mem).2 some_
  refine ⟨o.first, nofun, fun p hp => ?_, ?_, fun l u j hu core => ?_, ?_, o.balance⟩
  · obtain hp | hp := List.mem_append.mp hp
    · exact ⟨(o.known p hp).1, nofun⟩
    · obtain rfl := List.mem_singleton.mp hp
      have last := o.last i some_
      exact ⟨by simp only [setCall]; omega, nofun⟩
  · rw [List.map_append]
    refine List.nodup_append.mpr ⟨o.once, by simp, fun a ha b hb hab => ?_⟩
    obtain ⟨p, hp, rfl⟩ := List.mem_map.mp ha
    obtain rfl := List.mem_singleton.mp hb
    exact (o.known p hp).2 (hab ▸ some_)
  · obtain ⟨rfl, now⟩ | ⟨_, before⟩ := setCall_cases hu
    · rw [now] at core
      rcases core with core | core <;> cases core
      exact ⟨by simp, fun mem => fresh_ (o.sent.2 mem)⟩
    · obtain ⟨mem, unsent⟩ := o.asked l u j before core
      exact ⟨List.mem_append_left _ mem, unsent⟩
  · exact ⟨o.sent.1, fun p hp => List.mem_append_left _ (o.sent.2 hp)⟩

theorem InOrder.of_find (o : S.InOrder recalled signalled) {k i : Nat} {t : Task}
    (at_ : S.tasks[k]? = some t) (stopping : t.call = .stopping i) :
    (S.setCall k t S.worker (.sendStop i)).InOrder recalled signalled := by
  refine ⟨o.first, o.last, o.known, o.once, fun l u j hu core => ?_, o.sent, o.balance⟩
  obtain ⟨rfl, now⟩ | ⟨_, before⟩ := setCall_cases hu
  · rw [now] at core
    rcases core with core | core <;> cases core
    exact o.asked l t i at_ (.inl (by rw [stopping]; rfl))
  · exact o.asked l u j before core

theorem InOrder.of_send (o : S.InOrder recalled signalled) {k i : Nat} {t : Task}
    (at_ : S.tasks[k]? = some t) (sending : t.call = .sendStop i) (deadline : Nat) :
    (S.setCall k t { S.worker with queue := S.worker.queue ++ [.stop] }
      (.awaitExit i deadline)).InOrder recalled (signalled ++ [(k, i)]) := by
  obtain ⟨mine, unsent⟩ := o.asked k t i at_ (.inr (by rw [sending]; rfl))
  refine ⟨o.first, o.last, o.known, o.once, fun l u j hu core => ?_, ⟨?_, ?_⟩, ?_⟩
  · obtain ⟨rfl, now⟩ | ⟨ne, before⟩ := setCall_cases hu
    · rw [now] at core
      rcases core with core | core <;> cases core
    · obtain ⟨mem, unsent⟩ := o.asked l u j before core
      refine ⟨mem, fun sent => ?_⟩
      obtain sent | sent := List.mem_append.mp sent
      · exact unsent sent
      · exact ne (congrArg Prod.fst (List.mem_singleton.mp sent))
  · refine List.nodup_append.mpr ⟨o.sent.1, by simp, fun a ha b hb hab => ?_⟩
    obtain rfl := List.mem_singleton.mp hb
    exact unsent (hab ▸ ha)
  · intro p hp
    obtain hp | hp := List.mem_append.mp hp
    · exact o.sent.2 hp
    · exact (List.mem_singleton.mp hp) ▸ mine
  · simp only [setCall, List.length_append, List.length_singleton, List.count_append,
      List.count_singleton_self, o.balance]
    omega

theorem InOrder.of_order (o : S.InOrder recalled signalled) {k : Nat} {t : Task} {w : Worker σ τ}
    {c : Call} (at_ : S.tasks[k]? = some t) (order : S.worker.Order t.call w c) :
    (S.setCall k t w c).InOrder (recalled ++ S.recalls (.call k))
      (signalled ++ S.signals (.call k)) := by
  obtain ⟨r, now⟩ := t
  cases order with
  | spawns idle =>
    rw [recalls_eq_nil at_ nofun, signals_eq_nil at_ nofun, List.append_nil, List.append_nil]
    exact o.of_spawn idle
  | @takes i some_ =>
    have mine : S.recalls (.call k) = [(k, i)] := by simp [recalls, at_, some_]
    rw [mine, signals_eq_nil at_ nofun, List.append_nil]
    exact o.of_take some_
  | finds =>
    rw [recalls_eq_nil at_ nofun, signals_eq_nil at_ nofun, List.append_nil, List.append_nil]
    exact o.of_find at_ rfl
  | @sends i deadline =>
    have mine : S.signals (.call k) = [(k, i)] := by simp [signals, at_]
    rw [mine, recalls_eq_nil at_ nofun, List.append_nil]
    exact o.of_send at_ rfl deadline
  | other consumers current queue stop sendStop _ core =>
    rw [recalls_eq_nil at_ stop, signals_eq_nil at_ sendStop, List.append_nil, List.append_nil]
    refine o.congr consumers current queue fun l u hu => ?_
    obtain ⟨rfl, rfl⟩ | ⟨_, before⟩ := setCall_cases hu
    · exact core.imp_left fun same => ⟨_, at_, same⟩
    · exact .inl ⟨u, before, rfl⟩

theorem Happens.inOrder (h : Happens env S e T) (o : S.InOrder recalled signalled)
    (inTurn : S.overtakes e = []) :
    T.InOrder (recalled ++ S.recalls e) (signalled ++ S.signals e) := by
  cases h with
  | request r =>
    simp only [recalls, signals, List.append_nil]
    refine o.congr rfl rfl rfl fun l u hu => ?_
    obtain before | ⟨_, rfl⟩ := getElem?_concat_cases hu
    · exact .inl ⟨u, before, rfl⟩
    · exact .inr (by cases r <;> rfl)
  | wait | shutdown =>
    simp only [recalls, signals, List.append_nil]
    exact o.congr rfl rfl rfl fun l u hu => .inl ⟨u, hu, rfl⟩
  | giveUp at_ =>
    simp only [recalls, signals, List.append_nil]
    refine o.congr rfl rfl rfl fun l u hu => ?_
    obtain ⟨_, ended⟩ | ⟨_, before⟩ := setCall_cases hu
    · exact .inr (by rw [ended]; rfl)
    · exact .inl ⟨u, before, rfl⟩
  | call at_ turn => exact o.of_order at_ turn.order
  | consumer turn =>
    simp only [recalls, signals, List.append_nil]
    exact o.of_deal turn.deal turn.current inTurn

theorem inOrder (inTurn : (fresh service store clock).along env overtakes events = [])
    (h : (fresh service store clock).run env events = some S) :
    S.InOrder ((fresh service store clock).along env recalls events)
      ((fresh service store clock).along env signals events) := by
  revert inTurn
  refine run_induction (motive := fun events S =>
    (fresh service store clock).along env overtakes events = [] →
      S.InOrder ((fresh service store clock).along env recalls events)
        ((fresh service store clock).along env signals events)) ?_ ?_ h
  · intro _
    exact ⟨by simp [fresh], by simp [fresh], by simp [along], by simp [along], by simp [fresh],
      by simp [along], by simp [fresh, along]⟩
  · intro events R e T hR ih hT inTurn
    rw [along_concat overtakes hR] at inTurn
    obtain ⟨before, now⟩ := List.append_eq_nil_iff.mp inTurn
    rw [along_concat recalls hR, along_concat signals hR]
    exact (happens_of_step hT).inOrder (ih before) now

/-- No consumer has died after a stop message was sent for it. -/
def Spared (S : System σ τ) (signalled : List (Nat × Nat)) : Prop :=
  ∀ p ∈ signalled, S.worker.consumers[p.2]? ≠ some .dead

/-- A consumer that has not died is the current one, which goes on, or a stop call has taken it. -/
structure Attended (S : System σ τ) (recalled : List (Nat × Nat)) : Prop where
  kept : ∀ (i : Nat) (stage : Stage), S.worker.consumers[i]? = some stage → stage ≠ .dead →
    S.worker.current = some i ∨ i ∈ recalled.map Prod.snd
  going : ∀ i, S.worker.current = some i → S.worker.consumers[i]? ≠ some .finished

theorem InOrder.nodup_signalled (o : S.InOrder recalled signalled) :
    (signalled.map Prod.snd).Nodup :=
  o.sent.1.map_on fun _ hx _ hy same =>
    List.inj_on_of_nodup_map o.once (o.sent.2 hx) (o.sent.2 hy) same

/-- When the current consumer has come to the queue, all consumers that were sent a message have
ended by one. -/
theorem InOrder.signalled_le (o : S.InOrder recalled signalled) (spared : S.Spared signalled)
    {i : Nat} {stage : Stage} (current : S.worker.current = some i)
    (at_ : S.worker.consumers[i]? = some stage) (came : stage ≠ .waiting) :
    signalled.length ≤ S.worker.consumers.count .finished := by
  have ended : signalled.map Prod.snd ⊆ (List.range S.worker.consumers.length).filter
      fun j => S.worker.consumers[j]? = some .finished := by
    intro j hj
    obtain ⟨p, hp, rfl⟩ := List.mem_map.mp hj
    obtain ⟨hlt, ne⟩ := o.known p (o.sent.2 hp)
    have last := o.last i current
    have other : p.2 ≠ i := by
      rintro rfl
      exact ne current
    have gone := o.first p.2 i stage at_ came (by omega)
    have mine := List.getElem?_eq_getElem hlt
    rw [Worker.isOver_iff mine] at gone
    have alive := spared p hp
    rw [mine] at alive
    cases hs : S.worker.consumers[p.2] with
    | finished => simp [hlt, hs]
    | dead => exact absurd (congrArg some hs) alive
    | _ => rw [hs] at gone; cases gone
  -- Messages were sent for distinct consumers, so there are no more of them than have ended.
  have bound := (o.nodup_signalled.subperm ended).length_le
  rwa [List.length_map, ← count_eq_length_filter] at bound

theorem Attended.of_deal (a : S.Attended recalled) (o : S.InOrder recalled signalled)
    (spared : S.Spared signalled) {i : Nat} {w : Worker σ τ} (deal : S.worker.Deal i w)
    (current : w.current = S.worker.current) : Attended ⟨w, S.tasks⟩ recalled := by
  obtain ⟨old, new, at_, set, _⟩ := deal.stages
  refine ⟨fun j stage hj ne => ?_, fun j hj ended => ?_⟩
  · rw [current]
    simp only [set] at hj
    obtain ⟨rfl, rfl⟩ | ⟨_, hj⟩ := getElem?_set_cases hj
    · refine a.kept i old at_ ?_
      rintro rfl
      cases deal.live at_
    · exact a.kept j stage hj ne
  · rw [current] at hj
    by_cases hij : i = j
    · subst hij
      -- The stop message that it takes would be one more than were sent.
      obtain ⟨receiving, head⟩ := deal.finishes ended
      have all := o.signalled_le spared hj receiving nofun
      rw [o.balance, head, List.count_cons_self] at all
      omega
    · rw [set, List.getElem?_set_ne hij] at ended
      exact a.going j hj ended

theorem Attended.congr (a : S.Attended recalled)
    (consumers : T.worker.consumers = S.worker.consumers)
    (current : T.worker.current = S.worker.current) : T.Attended recalled := by
  refine ⟨?_, ?_⟩ <;> rw [consumers, current]
  · exact a.kept
  · exact a.going

theorem Attended.of_spawn (a : S.Attended recalled) (idle : S.worker.isRunning = false) {k : Nat}
    {t : Task} : (S.setCall k t S.worker.start (.over .done)).Attended recalled := by
  simp only [setCall, Worker.start_of_idle idle]
  refine ⟨fun i stage hi ne => ?_, fun i hi => ?_⟩
  · obtain hi | ⟨rfl, _⟩ := getElem?_concat_cases hi
    · obtain current | mem := a.kept i stage hi ne
      · have gone : S.worker.isOver i = true := by simpa [Worker.isRunning, current] using idle
        rw [Worker.isOver_iff hi] at gone
        have going := a.going i current
        cases stage with
        | finished => exact absurd hi going
        | dead => exact absurd rfl ne
        | _ => cases gone
      · exact .inr mem
    · exact .inl rfl
  · cases hi
    simp

theorem Attended.of_order (a : S.Attended recalled) {k : Nat} {t : Task} {w : Worker σ τ}
    {c : Call} (at_ : S.tasks[k]? = some t) (order : S.worker.Order t.call w c) :
    (S.setCall k t w c).Attended (recalled ++ S.recalls (.call k)) := by
  obtain ⟨r, now⟩ := t
  cases order with
  | spawns idle =>
    rw [recalls_eq_nil at_ nofun, List.append_nil]
    exact a.of_spawn idle
  | @takes i some_ =>
    have mine : S.recalls (.call k) = [(k, i)] := by simp [recalls, at_, some_]
    rw [mine]
    refine ⟨fun j stage hj ne => .inr ?_, nofun⟩
    rw [List.map_append]
    obtain current | mem := a.kept j stage hj ne
    · cases some_.symm.trans current
      simp
    · exact List.mem_append_left _ mem
  | finds | sends =>
    rw [recalls_eq_nil at_ nofun, List.append_nil]
    exact a.congr rfl rfl
  | other consumers current _ stop =>
    rw [recalls_eq_nil at_ stop, List.append_nil]
    exact a.congr consumers current

theorem Happens.attended (h : Happens env S e T) (o : S.InOrder recalled signalled)
    (spared : S.Spared signalled) (a : S.Attended recalled) :
    T.Attended (recalled ++ S.recalls e) := by
  cases h with
  | request | giveUp | wait | shutdown =>
    simp only [recalls, List.append_nil]
    exact a.congr rfl rfl
  | call at_ turn => exact a.of_order at_ turn.order
  | consumer turn =>
    simp only [recalls, List.append_nil]
    exact a.of_deal o spared turn.deal turn.current

theorem Happens.spared (h : Happens env S e T) (spared : T.Spared (signalled ++ S.signals e)) :
    S.Spared signalled := fun p hp dead =>
  spared p (List.mem_append_left _ hp) (h.keeps_over dead rfl)

theorem attended (inTurn : (fresh service store clock).along env overtakes events = [])
    (h : (fresh service store clock).run env events = some S)
    (spared : S.Spared ((fresh service store clock).along env signals events)) :
    S.Attended ((fresh service store clock).along env recalls events) := by
  revert inTurn spared
  refine run_induction (motive := fun events S =>
    (fresh service store clock).along env overtakes events = [] →
      S.Spared ((fresh service store clock).along env signals events) →
        S.Attended ((fresh service store clock).along env recalls events)) ?_ ?_ h
  · intro _ _
    exact ⟨by simp [fresh], by simp [fresh]⟩
  · intro events R e T hR ih hT inTurn spared
    have hap := happens_of_step hT
    rw [along_concat overtakes hR] at inTurn
    have before := (List.append_eq_nil_iff.mp inTurn).1
    rw [along_concat signals hR] at spared
    have spared' := hap.spared spared
    rw [along_concat recalls hR]
    exact hap.attended (inOrder before hR) spared' (ih before spared')

theorem Alive.spared (alive : S.Alive) : S.Spared signalled := fun _ _ dead =>
  alive (List.mem_of_getElem? dead)

/-- A consumer that has ended by a stop message was taken from the worker by a stop call, and after
it was started, unless another died that a stop message had been sent for. -/
theorem finished_recalled {before after : List Event} {B : System σ τ}
    (inTurn : (fresh service store clock).along env overtakes (before ++ after) = [])
    (hB : (fresh service store clock).run env before = some B) (hS : B.run env after = some S)
    (spared : S.Spared ((fresh service store clock).along env signals (before ++ after))) {i : Nat}
    (later : B.worker.consumers.length ≤ i)
    (ended : S.worker.consumers[i]? = some .finished) : ∃ k, (k, i) ∈ B.along env recalls after := by
  have h := run_append_eq_some.mpr ⟨B, hB, hS⟩
  have a := attended inTurn h spared
  have taken : i ∈ ((fresh service store clock).along env recalls (before ++ after)).map Prod.snd :=
    (a.kept i _ ended nofun).resolve_left fun current => a.going i current ended
  obtain ⟨⟨k, j⟩, mem, rfl⟩ := List.mem_map.mp taken
  rw [along_append recalls hB, List.mem_append] at mem
  refine ⟨k, mem.resolve_left fun earlier => ?_⟩
  rw [along_append overtakes hB] at inTurn
  have known := (inOrder (List.append_eq_nil_iff.mp inTurn).1 hB).known _ earlier
  omega

def brittleEnv : WorkerEnv Unit CountedStore :=
  .ofOutcome (fun _ => none) (fun n => if n = 0 then some .breaks else none) fun _ code =>
    .assessed (.graded .failed 0 code)

def brittleStore : CountedStore :=
  { store := ⟨[.fresh ⟨1⟩ (brittleEnv.date 0) "sqli_001" "one" none,
      .fresh ⟨2⟩ (brittleEnv.date 0) "xss_001" "two" none]⟩ }

/-- The first consumer dies. The second one is stopped while it works on an id, and a third one is
started. -/
def sparedBefore : List Event :=
  Request.start.events 0 1 ++ (Request.enqueue ⟨1⟩).events 1 2 ++ List.replicate 4 (.consumer 0)

def sparedAfter : List Event :=
  Request.start.events 2 1 ++ (Request.enqueue ⟨2⟩).events 3 2 ++ List.replicate 4 (.consumer 1) ++
    Request.stop.events 4 3 ++ Request.start.events 5 1 ++ .wait 5 ::
    List.replicate 4 (.consumer 1) ++ [.consumer 2]

theorem finished_recalled_third :
    (fresh () brittleStore 0).along brittleEnv overtakes (sparedBefore ++ sparedAfter) = [] ∧
      ∃ B S, (fresh () brittleStore 0).run brittleEnv sparedBefore = some B ∧
        B.run brittleEnv sparedAfter = some S ∧
        S.Spared ((fresh () brittleStore 0).along brittleEnv signals
          (sparedBefore ++ sparedAfter)) ∧
        B.worker.consumers = [.dead] ∧ S.worker.consumers = [.dead, .finished, .receiving] ∧
        ∃ k, (k, 1) ∈ B.along brittleEnv recalls sparedAfter := by
  have inTurn : (fresh () brittleStore 0).along brittleEnv overtakes
      (sparedBefore ++ sparedAfter) = [] := by decide +kernel
  have sent : (fresh () brittleStore 0).along brittleEnv signals (sparedBefore ++ sparedAfter) =
      [(4, 1)] := by decide +kernel
  have goes : ((fresh () brittleStore 0).run brittleEnv sparedBefore).any (fun B =>
      decide (B.worker.consumers = [.dead]) && (B.run brittleEnv sparedAfter).any fun S =>
        decide (S.worker.consumers = [.dead, .finished, .receiving])) = true := by decide +kernel
  obtain ⟨B, hB, goes⟩ := (Option.any_eq_true _ _).mp goes
  simp only [Bool.and_eq_true, decide_eq_true_eq, Option.any_eq_true] at goes
  obtain ⟨one, S, hS, three⟩ := goes
  have spared : S.Spared ((fresh () brittleStore 0).along brittleEnv signals
      (sparedBefore ++ sparedAfter)) := by
    intro p hp
    rw [sent] at hp
    simp [List.mem_singleton.mp hp, three]
  exact ⟨inTurn, B, S, hB, hS, spared, one, three,
    finished_recalled inTurn hB hS spared (by simp [one]) (by simp [three])⟩

/-- The consumer dies while a stop call waits for it. Another one is started, and an id enqueued. -/
def orphanedStop : List Event :=
  Request.start.events 0 1 ++ (Request.enqueue ⟨1⟩).events 1 2 ++ List.replicate 3 (.consumer 0) ++
    Request.stop.events 2 3 ++ [.consumer 0, .call 2] ++ Request.start.events 3 1 ++
    (Request.enqueue ⟨2⟩).events 4 2 ++ List.replicate 2 (.consumer 1)

/-- The second consumer ends by the message that was sent for the first one, though no stop call has
taken it, and leaves the id in the queue. -/
theorem finished_unrecalled :
    (fresh () brittleStore 0).along brittleEnv overtakes orphanedStop = [] ∧
      (fresh () brittleStore 0).along brittleEnv recalls orphanedStop = [(2, 0)] ∧
      ∃ S, (fresh () brittleStore 0).run brittleEnv orphanedStop = some S ∧
        S.worker.consumers = [.dead, .finished] ∧ S.worker.isRunning = false ∧
        S.worker.queue = [.score ⟨2⟩] := by
  have goes : ((fresh () brittleStore 0).run brittleEnv orphanedStop).any (fun S =>
      decide (S.worker.consumers = [.dead, .finished] ∧ S.worker.isRunning = false ∧
        S.worker.queue = [.score ⟨2⟩])) = true := by decide +kernel
  obtain ⟨S, hS, goes⟩ := (Option.any_eq_true _ _).mp goes
  exact ⟨by decide +kernel, by decide +kernel, S, hS, of_decide_eq_true goes⟩

end System

end FixGrader
