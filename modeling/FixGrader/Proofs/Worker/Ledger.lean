import FixGrader.Proofs.Worker.Sequential

namespace FixGrader

/-- What is to be seen at the queue: consumer `i` takes a message, or acknowledges the id that it
took last. -/
inductive Mark where
  | took (i : Nat) (m : Message)
  | acknowledged (i : Nat)
  deriving DecidableEq, Repr

def Mark.message? : Mark → Option Message
  | took _ m => some m
  | acknowledged _ => none

def Mark.taken (marks : List Mark) : List Message := marks.filterMap message?

def Message.ids (ms : List Message) : List Uuid := ms.filterMap id?

/-- The ids that have been acknowledged, in order, and for each consumer the one that it has yet to
acknowledge. -/
structure Ledger where
  held : Nat → Option Uuid := fun _ => none
  settled : List Uuid := []

namespace Ledger

def enter (l : Ledger) : Mark → Ledger
  | .took i (.score id) => { l with held := Function.update l.held i (some id) }
  | .took _ .stop => l
  | .acknowledged i => ⟨Function.update l.held i none, l.settled ++ (l.held i).toList⟩

def ofMarks (marks : List Mark) : Ledger := marks.foldl enter {}

@[simp] theorem ofMarks_nil : ofMarks [] = {} := rfl

@[simp] theorem ofMarks_concat (marks : List Mark) (m : Mark) :
    ofMarks (marks ++ [m]) = (ofMarks marks).enter m := by
  simp [ofMarks]

end Ledger

@[simp] theorem Mark.taken_append (before after : List Mark) :
    taken (before ++ after) = taken before ++ taken after :=
  List.filterMap_append

@[simp] theorem Message.ids_append (before after : List Message) :
    ids (before ++ after) = ids before ++ ids after :=
  List.filterMap_append

@[simp] theorem Mark.taken_took (i : Nat) (m : Message) : taken [took i m] = [m] := rfl

@[simp] theorem Mark.taken_acknowledged (i : Nat) : taken [acknowledged i] = [] := rfl

@[simp] theorem Message.ids_score (id : Uuid) : ids [score id] = [id] := rfl

@[simp] theorem Message.ids_stop : ids [stop] = [] := rfl

section

variable {α β : Type} {l : List α} {i : Nat} {a : α}

theorem countP_set_add (p : α → Bool) (at_ : l[i]? = some a) (b : α) :
    (l.set i b).countP p + (if p a then 1 else 0) = l.countP p + if p b then 1 else 0 := by
  obtain ⟨hi, rfl⟩ := List.getElem?_eq_some_iff.mp at_
  have counted : (if p l[i] then 1 else 0) ≤ l.countP p := by
    split
    · exact List.countP_pos_iff.mpr ⟨_, List.getElem_mem hi, ‹_›⟩
    · exact Nat.zero_le _
  rw [List.countP_set hi]
  omega

theorem countP_set_of_eq {p : α → Bool} (at_ : l[i]? = some a) {b : α} (same : p b = p a) :
    (l.set i b).countP p = l.countP p := by
  have moved := countP_set_add p at_ b
  rw [same] at moved
  omega

theorem countP_le_one {p : α → Bool}
    (one : ∀ (i j : Nat) (a b : α), l[i]? = some a → l[j]? = some b → p a = true → p b = true →
      i = j) : l.countP p ≤ 1 := by
  induction l with
  | nil => simp
  | cons x l ih =>
    by_cases hx : p x = true
    · have none_ : l.countP p = 0 := by
        refine List.countP_eq_zero.mpr fun a ha hpa => ?_
        obtain ⟨j, hj⟩ := List.getElem?_of_mem ha
        exact absurd (one 0 (j + 1) x a rfl (by simpa using hj) hx hpa) (by omega)
      simp [hx, none_]
    · rw [List.countP_cons_of_neg hx]
      refine ih fun i j a b hi hj ha hb => ?_
      have same := one (i + 1) (j + 1) a b (by simpa using hi) (by simpa using hj) ha hb
      omega

theorem length_flatMap_set_add (f : α → List β) (at_ : l[i]? = some a) (b : α) :
    ((l.set i b).flatMap f).length + (f a).length = (l.flatMap f).length + (f b).length := by
  induction l generalizing i with
  | nil => simp at at_
  | cons x l ih =>
    cases i with
    | zero =>
      obtain rfl : x = a := by simpa using at_
      simp only [List.set_cons_zero, List.flatMap_cons, List.length_append]
      omega
    | succ i =>
      have rest := ih (by simpa using at_)
      simp only [List.set_cons_succ, List.flatMap_cons, List.length_append]
      omega

end

/-- A consumer at this stage has taken an id and not yet acknowledged it. -/
def Stage.isBusy : Stage → Bool
  | acknowledging => true
  | stage => stage.works

/-- The consumer has taken an id that is not acknowledged, and may never be. -/
def Stage.holds (stage : Stage) : Bool := stage.isBusy || stage == .dead

def Call.posts : Call → List Message
  | send id _ => [.score id]
  | sendStop _ => [.stop]
  | _ => []

/-- The ids that a call has counted as pending and not yet sent. -/
def Call.unsent : Call → List Uuid
  | send id next => id :: next.unsent
  | enqueue _ next => next.unsent
  | _ => []

theorem Stage.isBusy_of_works {stage : Stage} (h : stage.works = true) : stage.isBusy = true := by
  cases stage <;> first | rfl | cases h

theorem Stage.holds_of_isBusy {stage : Stage} (h : stage.isBusy = true) : stage.holds = true := by
  rw [Stage.holds, h, Bool.true_or]

theorem Stage.holds_of_works {stage : Stage} (h : stage.works = true) : stage.holds = true :=
  holds_of_isBusy (isBusy_of_works h)

theorem countP_holds (l : List Stage) :
    l.countP Stage.holds = l.countP Stage.isBusy + l.count .dead := by
  induction l with
  | nil => rfl
  | cons stage l ih =>
    rw [List.countP_cons, List.countP_cons, List.count_cons, ih]
    cases stage <;> simp [Stage.holds, Stage.isBusy, Stage.works] <;> omega

theorem Stage.hasQueue_of_isBusy {stage : Stage} (h : stage.isBusy = true) :
    stage.hasQueue = true := by
  cases stage <;> first | rfl | cases h

theorem Call.ids_posts (c : Call) : Message.ids c.posts = c.sends := by
  cases c <;> rfl

@[simp] theorem Call.unsent_fault (f : CallFault) : (fault f).unsent = [] := by
  cases f <;> rfl

namespace Worker

variable {σ τ : Type} {env : WorkerEnv σ τ} {w w' : Worker σ τ} {i : Nat} {c c' : Call}

def marks (w : Worker σ τ) (i : Nat) : List Mark :=
  match w.consumers[i]?, w.queue with
  | some .receiving, m :: _ => [.took i m]
  | some .acknowledging, _ => [.acknowledged i]
  | _, _ => []

/-- What one step of consumer `i` does with messages. -/
inductive Deal (w : Worker σ τ) (i : Nat) (w' : Worker σ τ) : Prop
  | enters (at_ : w.consumers[i]? = some .waiting)
      (set : w'.consumers = w.consumers.set i .receiving)
      (alone : ∀ stage ∈ w.consumers, stage.hasQueue = false) (unmarked : w.marks i = [])
      (queue : w'.queue = w.queue) (pending : w'.pending = w.pending)
      (inFlight : w'.inFlight = w.inFlight)
  | goesOn {old new : Stage} (at_ : w.consumers[i]? = some old)
      (set : w'.consumers = w.consumers.set i new) (works : old.works = true)
      (works' : new.works = true) (unmarked : w.marks i = []) (queue : w'.queue = w.queue)
      (pending : w'.pending = w.pending) (inFlight : w'.inFlight = w.inFlight)
  | returns {old : Stage} (at_ : w.consumers[i]? = some old)
      (set : w'.consumers = w.consumers.set i .acknowledging) (works : old.works = true)
      (unmarked : w.marks i = []) (queue : w'.queue = w.queue) (pending : w'.pending = w.pending)
      (inFlight : w'.inFlight = none)
  | dies {old : Stage} (at_ : w.consumers[i]? = some old)
      (set : w'.consumers = w.consumers.set i .dead) (works : old.works = true)
      (unmarked : w.marks i = []) (queue : w'.queue = w.queue) (pending : w'.pending = w.pending)
      (inFlight : w'.inFlight = w.inFlight)
  | halts (at_ : w.consumers[i]? = some .receiving)
      (set : w'.consumers = w.consumers.set i .finished) (marked : w.marks i = [.took i .stop])
      (queue : w.queue = .stop :: w'.queue) (pending : w'.pending = w.pending)
      (inFlight : w'.inFlight = w.inFlight)
  | takes {id : Uuid} (at_ : w.consumers[i]? = some .receiving)
      (set : w'.consumers = w.consumers.set i (.loading id))
      (marked : w.marks i = [.took i (.score id)]) (queue : w.queue = .score id :: w'.queue)
      (pending : w'.pending = w.pending) (inFlight : w'.inFlight = some id)
  | acknowledges (at_ : w.consumers[i]? = some .acknowledging)
      (set : w'.consumers = w.consumers.set i .receiving) (marked : w.marks i = [.acknowledged i])
      (queue : w'.queue = w.queue) (pending : w'.pending = w.pending - 1)
      (inFlight : w'.inFlight = w.inFlight)

theorem marks_of_ne {stage : Stage} (at_ : w.consumers[i]? = some stage)
    (h : stage ≠ .receiving) (h' : stage ≠ .acknowledging) : w.marks i = [] := by
  unfold marks
  rw [at_]
  split
  · exact absurd (Option.some.inj ‹_›) h
  · exact absurd (Option.some.inj ‹_›) h'
  · rfl

theorem marks_of_works {stage : Stage} (at_ : w.consumers[i]? = some stage)
    (works : stage.works = true) : w.marks i = [] := by
  refine marks_of_ne at_ ?_ ?_ <;> rintro rfl <;> cases works

theorem isOver_of_works {stage : Stage} (works : stage.works = true) : stage.isOver = false := by
  cases stage <;> first | rfl | cases works

theorem Turn.deal (h : Turn env w i w') : w.Deal i w' := by
  cases h with
  | letIn at_ alone => exact .enters at_ rfl alone (marks_of_ne at_ nofun nofun) rfl rfl rfl
  | halt at_ head => exact .halts at_ rfl (by simp [marks, at_, head]) head rfl rfl
  | begin at_ head => exact .takes at_ rfl (by simp [marks, at_, head]) head rfl rfl
  | acknowledge at_ => exact .acknowledges at_ rfl (by simp [marks, at_]) rfl rfl rfl
  | loadBreaks at_ => exact .dies at_ rfl rfl (marks_of_works at_ rfl) rfl rfl rfl
  | saveBreaks at_ saving =>
    have works := works_of_saving saving
    exact .dies at_ rfl works (marks_of_works at_ works) rfl rfl rfl
  | stored at_ saving =>
    have works := works_of_saving saving
    exact .returns at_ rfl works (marks_of_works at_ works) rfl rfl rfl
  | loadFails at_ | missing at_ | skip at_ | markFails at_ | giveUpFails at_ =>
    exact .returns at_ rfl rfl (marks_of_works at_ rfl) rfl rfl rfl
  | take at_ | pass at_ | conclude at_ | storeFails at_ | retryFails at_ =>
    exact .goesOn at_ rfl rfl rfl (marks_of_works at_ rfl) rfl rfl rfl

theorem CallTurn.queue (h : CallTurn env w c w' c') : w'.queue = w.queue ++ c.posts := by
  cases h with
  | start =>
    unfold Worker.start
    split <;> simp [Call.posts]
  | sendStop | send => rfl
  | _ => simp [Call.posts]

theorem CallTurn.pending (h : CallTurn env w c w' c') :
    w'.pending + c.unsent.length = w.pending + c'.unsent.length + c.sends.length := by
  cases h with
  | start =>
    unfold Worker.start
    split <;> simp [Call.unsent, Call.sends]
  | count | send =>
    simp only [Call.unsent, Call.sends, List.length_cons, List.length_nil]
    omega
  | _ => simp [Call.unsent, Call.sends]

theorem Deal.live (deal : w.Deal i w') {stage : Stage} (at_ : w.consumers[i]? = some stage) :
    stage.isOver = false := by
  cases deal with
  | goesOn at_' _ works | returns at_' _ works | dies at_' _ works =>
    cases at_.symm.trans at_'
    exact isOver_of_works works
  | enters at_' | halts at_' | takes at_' | acknowledges at_' => cases at_.symm.trans at_'; rfl

/-- What leaves the queue is taken, and only what is acknowledged is no longer pending. -/
theorem Deal.pending (deal : w.Deal i w') (enough : w.consumers.countP Stage.holds ≤ w.pending) :
    w'.pending + w.queued.length + w.consumers.countP Stage.holds =
      w.pending + w'.queued.length + w'.consumers.countP Stage.holds := by
  unfold queued
  cases deal with
  | enters at_ set _ _ queue pending =>
    have same : Stage.receiving.holds = Stage.waiting.holds := rfl
    rw [set, queue, pending, countP_set_of_eq at_ same]
  | @goesOn old new at_ set works works' _ queue pending =>
    have same : new.holds = old.holds :=
      (Stage.holds_of_works works').trans (Stage.holds_of_works works).symm
    rw [set, queue, pending, countP_set_of_eq at_ same]
  | returns at_ set works _ queue pending | dies at_ set works _ queue pending =>
    rw [set, queue, pending, countP_set_of_eq at_ (Stage.holds_of_works works).symm]
  | halts at_ set _ queue pending =>
    have same : Stage.finished.holds = Stage.receiving.holds := rfl
    rw [set, queue, pending, countP_set_of_eq at_ same, List.filterMap_cons_none rfl]
  | @takes id at_ set _ queue pending =>
    have more : (w.consumers.set i (.loading id)).countP Stage.holds =
        w.consumers.countP Stage.holds + 1 := countP_set_add Stage.holds at_ _
    rw [set, queue, pending, more]
    simp only [List.filterMap_cons, Message.id?, List.length_cons]
    omega
  | acknowledges at_ set _ queue pending =>
    have less : (w.consumers.set i .receiving).countP Stage.holds + 1 =
        w.consumers.countP Stage.holds := countP_set_add Stage.holds at_ _
    rw [set, queue, pending]
    omega

theorem OneHasQueue.rests (one : w.OneHasQueue) {old : Stage} (at_ : w.consumers[i]? = some old)
    (has : old.hasQueue = true) {j : Nat} {stage : Stage} (at_' : w.consumers[j]? = some stage)
    (ne : i ≠ j) : stage.isBusy = false := by
  by_contra busy
  rw [Bool.not_eq_false] at busy
  exact ne (one i j old stage at_ at_' has (Stage.hasQueue_of_isBusy busy))

theorem OneHasQueue.allIdle (one : w.OneHasQueue) {old : Stage} (at_ : w.consumers[i]? = some old)
    (has : old.hasQueue = true) (idle : old.isBusy = false) :
    ∀ stage ∈ w.consumers, stage.isBusy = false := by
  intro stage mem
  obtain ⟨j, hj⟩ := List.getElem?_of_mem mem
  by_cases hij : i = j
  · subst hij
    cases at_.symm.trans hj
    exact idle
  · exact one.rests at_ has hj hij

theorem OneHasQueue.countP_isBusy (one : w.OneHasQueue) :
    w.consumers.countP Stage.isBusy = if w.consumers.any Stage.isBusy then 1 else 0 := by
  have most : w.consumers.countP Stage.isBusy ≤ 1 :=
    countP_le_one fun i j a b hi hj ha hb =>
      one i j a b hi hj (Stage.hasQueue_of_isBusy ha) (Stage.hasQueue_of_isBusy hb)
  split
  · obtain ⟨stage, mem, busy⟩ := List.any_eq_true.mp ‹_›
    have least : 0 < w.consumers.countP Stage.isBusy := List.countP_pos_iff.mpr ⟨stage, mem, busy⟩
    omega
  · exact List.countP_eq_zero.mpr fun stage mem busy =>
      absurd (List.any_eq_true.mpr ⟨stage, mem, busy⟩) ‹_›

end Worker

namespace System

variable {σ τ α β : Type} {env : WorkerEnv σ τ} {S T : System σ τ} {e : Event}
  {events : List Event} {service : σ} {store : τ} {clock : Nat}

/-- The ids that enqueues have counted as pending and not yet sent. -/
def unsent (S : System σ τ) : List Uuid := S.tasks.flatMap fun t => t.call.unsent

def posts (S : System σ τ) : Event → List Message
  | .call k => ((S.tasks[k]?).map fun t => t.call.posts).getD []
  | _ => []

def marks (S : System σ τ) : Event → List Mark
  | .consumer i => S.worker.marks i
  | _ => []

theorem along_filterMap {f : System σ τ → Event → List α} {g : α → Option β}
    {f' : System σ τ → Event → List β} (h : ∀ S e, f' S e = (f S e).filterMap g)
    (S : System σ τ) (events : List Event) :
    S.along env f' events = (S.along env f events).filterMap g := by
  induction events generalizing S with
  | nil => rfl
  | cons e events ih =>
    simp only [along, h, List.filterMap_append]
    cases S.step env e <;> simp [ih]

theorem ids_posts (S : System σ τ) (e : Event) : Message.ids (S.posts e) = S.sends e := by
  cases e with
  | call k =>
    simp only [posts, sends]
    cases S.tasks[k]? with
    | none => rfl
    | some t => exact t.call.ids_posts
  | _ => rfl

theorem along_sends (S : System σ τ) (events : List Event) :
    S.along env sends events = Message.ids (S.along env posts events) :=
  along_filterMap (fun S e => (ids_posts S e).symm) S events

theorem Happens.queue (h : Happens env S e T) :
    S.worker.queue ++ S.posts e = Mark.taken (S.marks e) ++ T.worker.queue := by
  cases h with
  | request | giveUp | wait | shutdown => simp [posts, marks, setCall, Mark.taken]
  | call at_ turn => simp [posts, marks, setCall, at_, turn.queue, Mark.taken]
  | consumer turn =>
    cases turn.deal with
    | enters _ _ _ unmarked queue | goesOn _ _ _ _ unmarked queue | returns _ _ _ unmarked queue
    | dies _ _ _ unmarked queue | acknowledges _ _ unmarked queue =>
      simp [posts, marks, unmarked, queue, Mark.taken, Mark.message?]
    | halts _ _ marked queue | takes _ _ marked queue =>
      simp [posts, marks, marked, queue, Mark.taken, Mark.message?]

/-- Messages are taken in the order in which they were sent, and the queue holds those not yet
taken. -/
theorem posts_eq (h : (fresh service store clock).run env events = some S) :
    (fresh service store clock).along env posts events =
      Mark.taken ((fresh service store clock).along env marks events) ++ S.worker.queue := by
  refine run_induction (motive := fun events S =>
    (fresh service store clock).along env posts events =
      Mark.taken ((fresh service store clock).along env marks events) ++ S.worker.queue) rfl ?_ h
  intro events R e T hR ih hT
  rw [along_concat posts hR, along_concat marks hR, ih, Mark.taken_append, List.append_assoc,
    List.append_assoc, (happens_of_step hT).queue]

theorem taken_isPrefix (h : (fresh service store clock).run env events = some S) :
    Mark.taken ((fresh service store clock).along env marks events) <+:
      (fresh service store clock).along env posts events := by
  rw [posts_eq h]
  exact List.prefix_append ..

/-- All that is pending is in the queue, about to be sent to it, or taken and not acknowledged. -/
def Exact (S : System σ τ) : Prop :=
  S.worker.pending =
    S.worker.queued.length + S.unsent.length + S.worker.consumers.countP Stage.holds

theorem length_unsent_setCall {k : Nat} {t : Task} (at_ : S.tasks[k]? = some t) (w : Worker σ τ)
    (c : Call) :
    (S.setCall k t w c).unsent.length + t.call.unsent.length =
      S.unsent.length + c.unsent.length :=
  length_flatMap_set_add _ at_ _

theorem Happens.exact (h : Happens env S e T) (exact_ : S.Exact) : T.Exact := by
  unfold Exact at exact_ ⊢
  cases h with
  | request r =>
    have none_ : r.call.unsent = [] := by cases r <;> rfl
    simpa [unsent, none_] using exact_
  | wait | shutdown => exact exact_
  | giveUp at_ =>
    have tasks := length_unsent_setCall at_ S.worker (.over .done)
    simp only [Call.unsent, List.length_nil] at tasks
    simp only [setCall] at tasks ⊢
    omega
  | @call k t w c at_ turn =>
    have tasks := length_unsent_setCall at_ w c
    have counted := turn.pending
    have queued : w.queued.length = S.worker.queued.length + t.call.sends.length := by
      rw [turn.queued, List.length_append]
    have consumers : w.consumers.countP Stage.holds = S.worker.consumers.countP Stage.holds := by
      rcases turn.consumers with hc | hc <;> rw [hc]
      rw [List.countP_append]
      rfl
    simp only [setCall] at tasks ⊢
    omega
  | @consumer i w turn =>
    have dealt := turn.deal.pending (by omega)
    change w.pending = w.queued.length + S.unsent.length + w.consumers.countP Stage.holds
    omega

theorem exact (h : (fresh service store clock).run env events = some S) : S.Exact := by
  refine run_induction (motive := fun _ S => S.Exact) ?_ ?_ h
  · rfl
  · intro _ R e T _ ih hT
    exact (happens_of_step hT).exact ih

/-- No consumer has died so far. -/
def Alive (S : System σ τ) : Prop := .dead ∉ S.worker.consumers

theorem Happens.keeps_over (h : Happens env S e T) {i : Nat} {stage : Stage}
    (at_ : S.worker.consumers[i]? = some stage) (ended : stage.isOver = true) :
    T.worker.consumers[i]? = some stage := by
  refine h.keeps_stage at_ ?_
  rintro rfl
  cases h with
  | consumer turn =>
    have live := turn.deal.live at_
    simp [ended] at live

theorem Happens.alive (h : Happens env S e T) (alive : T.Alive) : S.Alive := by
  intro mem
  obtain ⟨i, at_⟩ := List.getElem?_of_mem mem
  exact alive (List.mem_of_getElem? (h.keeps_over at_ rfl))

/-- Consumers settle the ids that are taken in the order in which they are taken. The only id that may
have been taken but is not settled yet is the last one, which a busy consumer holds. -/
structure Agrees (S : System σ τ) (marks : List Mark) : Prop where
  rests : (∀ stage ∈ S.worker.consumers, stage.isBusy = false) →
    (Ledger.ofMarks marks).settled = Message.ids (Mark.taken marks)
  busy : ∀ (i : Nat) (stage : Stage), S.worker.consumers[i]? = some stage → stage.isBusy = true →
    ∃ before id, Mark.taken marks = before ++ [.score id] ∧
      (Ledger.ofMarks marks).held i = some id ∧
      (Ledger.ofMarks marks).settled = Message.ids before

theorem Agrees.set {marks : List Mark} (agrees : S.Agrees marks) {i : Nat} {old new : Stage}
    (at_ : S.worker.consumers[i]? = some old)
    (set : T.worker.consumers = S.worker.consumers.set i new) (busy : new.isBusy = old.isBusy) :
    T.Agrees marks where
  rests none_ := by
    refine agrees.rests fun stage mem => ?_
    obtain ⟨j, hj⟩ := List.getElem?_of_mem mem
    by_cases hij : i = j
    · subst hij
      cases at_.symm.trans hj
      rw [← busy]
      exact none_ new (List.mem_of_getElem? (Worker.stage_of_set at_ set))
    · refine none_ stage (List.mem_of_getElem? (i := j) ?_)
      rw [set, List.getElem?_set_ne hij, hj]
  busy j stage hj hb := by
    rw [set] at hj
    obtain ⟨rfl, rfl⟩ | ⟨_, hj⟩ := getElem?_set_cases hj
    · exact agrees.busy i old at_ (busy ▸ hb)
    · exact agrees.busy j stage hj hb

/-- If all others rest, and so does the consumer itself after its step, all that was taken has to be
settled. -/
theorem agrees_of_rests {marks : List Mark} {i : Nat} {old new : Stage}
    (one : S.worker.OneHasQueue) (at_ : S.worker.consumers[i]? = some old)
    (has : old.hasQueue = true) (set : T.worker.consumers = S.worker.consumers.set i new)
    (rests : new.isBusy = false)
    (settled : (Ledger.ofMarks marks).settled = Message.ids (Mark.taken marks)) :
    T.Agrees marks where
  rests _ := settled
  busy j stage hj hb := by
    rw [set] at hj
    obtain ⟨_, rfl⟩ | ⟨hij, hj⟩ := getElem?_set_cases hj
    · simp [rests] at hb
    · simp [one.rests at_ has hj hij] at hb

theorem Agrees.of_deal {marks : List Mark} {i : Nat} {w : Worker σ τ} {ts : List Task}
    (agrees : S.Agrees marks) (one : S.worker.OneHasQueue) (deal : S.worker.Deal i w)
    (alive : Alive ⟨w, ts⟩) : Agrees ⟨w, ts⟩ (marks ++ S.worker.marks i) := by
  cases deal with
  | enters at_ set _ unmarked =>
    rw [unmarked, List.append_nil]
    exact agrees.set at_ set rfl
  | goesOn at_ set works works' unmarked =>
    rw [unmarked, List.append_nil]
    exact agrees.set at_ set ((Stage.isBusy_of_works works').trans (Stage.isBusy_of_works works).symm)
  | returns at_ set works unmarked =>
    rw [unmarked, List.append_nil]
    exact agrees.set at_ set (Stage.isBusy_of_works works).symm
  | dies at_ set =>
    refine absurd (List.mem_of_getElem? (i := i) (Worker.stage_of_set at_ set)) alive
  | halts at_ set marked =>
    rw [marked]
    refine agrees_of_rests one at_ rfl set rfl ?_
    simpa [Ledger.enter] using agrees.rests (one.allIdle at_ rfl rfl)
  | @takes id at_ set marked =>
    rw [marked]
    have settled := agrees.rests (one.allIdle at_ rfl rfl)
    have now : w.consumers[i]? = some (.loading id) := Worker.stage_of_set at_ set
    refine ⟨fun none_ => ?_, fun j stage hj busy => ?_⟩
    · cases none_ _ (List.mem_of_getElem? now)
    · simp only [set] at hj
      obtain ⟨rfl, rfl⟩ | ⟨hij, hj⟩ := getElem?_set_cases hj
      · exact ⟨Mark.taken marks, id, by simp, by simp [Ledger.enter],
          by simpa [Ledger.enter] using settled⟩
      · simp [one.rests at_ rfl hj hij] at busy
  | acknowledges at_ set marked =>
    rw [marked]
    obtain ⟨before, id, taken, held, settled⟩ := agrees.busy i _ at_ rfl
    refine agrees_of_rests one at_ rfl set rfl ?_
    simp [Ledger.enter, taken, held, settled]

theorem Happens.agrees {marks : List Mark} (h : Happens env S e T) (one : S.worker.OneHasQueue)
    (agrees : S.Agrees marks) (alive : T.Alive) : T.Agrees (marks ++ S.marks e) := by
  cases h with
  | request | giveUp | wait | shutdown =>
    simp only [System.marks, List.append_nil]
    exact ⟨agrees.rests, agrees.busy⟩
  | call _ turn =>
    simp only [System.marks, List.append_nil]
    rcases turn.consumers with hc | hc
    · exact ⟨by simpa [setCall, hc] using agrees.rests, by simpa [setCall, hc] using agrees.busy⟩
    · refine ⟨fun none_ => agrees.rests fun stage mem => none_ stage ?_, fun i stage at_ busy => ?_⟩
      · simp [setCall, hc, mem]
      · simp only [setCall, hc] at at_
        obtain at_ | ⟨_, rfl⟩ := getElem?_concat_cases at_
        · exact agrees.busy i stage at_ busy
        · cases busy
  | consumer turn => exact agrees.of_deal one turn.deal alive

theorem agrees (alive : S.Alive) (h : (fresh service store clock).run env events = some S) :
    S.Agrees ((fresh service store clock).along env marks events) := by
  revert alive
  refine run_induction (motive := fun events S => S.Alive →
    S.Agrees ((fresh service store clock).along env marks events)) ?_ ?_ h
  · exact fun _ => ⟨fun _ => rfl, by simp [fresh]⟩
  · intro events R e T hR ih hT alive
    rw [along_concat marks hR]
    have hap := happens_of_step hT
    exact hap.agrees (oneHasQueue hR) (ih (hap.alive alive)) alive

theorem settled_of_none_pending (h : (fresh service store clock).run env events = some S)
    (none_ : S.worker.pending = 0) :
    (Ledger.ofMarks ((fresh service store clock).along env marks events)).settled =
      (fresh service store clock).along env sends events := by
  have counted : S.Exact := exact h
  rw [Exact, none_] at counted
  have queued : S.worker.queued = [] := List.eq_nil_of_length_eq_zero (by omega)
  have free : ∀ stage ∈ S.worker.consumers, ¬stage.holds = true :=
    List.countP_eq_zero.mp (by omega)
  have alive : S.Alive := fun mem => free _ mem rfl
  have idle : ∀ stage ∈ S.worker.consumers, stage.isBusy = false := by
    intro stage mem
    by_contra busy
    rw [Bool.not_eq_false] at busy
    exact free stage mem (Stage.holds_of_isBusy busy)
  rw [(agrees alive h).rests idle, along_sends, posts_eq h, Message.ids_append]
  change _ = _ ++ S.worker.queued
  rw [queued, List.append_nil]

theorem Happens.flush_cases (h : Happens env S e T) {k : Nat} {r : Request}
    (at_ : S.tasks[k]? = some ⟨r, .flush⟩) :
    T.tasks[k]? = some ⟨r, .flush⟩ ∨ S.worker.pending = 0 := by
  by_cases he : e = .call k
  · subst he
    cases h with
    | call at_' turn =>
      cases at_.symm.trans at_'
      cases turn with
      | flushed none_ => exact .inr none_
  · exact .inl (h.keeps_task at_ he rfl)

/-- A flush goes on waiting until, at some moment, nothing is pending. -/
theorem flush_waits {k : Nat} {r : Request} (hT : S.run env events = some T)
    (at_ : S.tasks[k]? = some ⟨r, .flush⟩) :
    T.tasks[k]? = some ⟨r, .flush⟩ ∨
      ∃ earlier later R, events = earlier ++ later ∧ S.run env earlier = some R ∧
        R.worker.pending = 0 := by
  refine run_induction (motive := fun events T => T.tasks[k]? = some ⟨r, .flush⟩ ∨
    ∃ earlier later R, events = earlier ++ later ∧ S.run env earlier = some R ∧
      R.worker.pending = 0) (.inl at_) ?_ hT
  rintro events Q e T hQ (waits | ⟨earlier, later, R, rfl, hR, none_⟩) hT
  · obtain waits | none_ := (happens_of_step hT).flush_cases waits
    · exact .inl waits
    · exact .inr ⟨events, [e], Q, rfl, hQ, none_⟩
  · exact .inr ⟨earlier, later ++ [e], R, List.append_assoc .., hR, none_⟩

/-- The pending ids are those in the queue, those about to be sent, the one that a live consumer has
taken but not acknowledged, and one for each consumer that died. So no acknowledgement finds the
counter at zero, and when a flush has returned there was a moment since its call at which all ids
sent until then were settled. -/
theorem pending_exact (h : (fresh service store clock).run env events = some S) :
    S.worker.pending = S.worker.queued.length + S.unsent.length +
        (if S.worker.consumers.any Stage.isBusy then 1 else 0) + S.worker.consumers.count .dead ∧
      (∀ i : Nat, S.worker.consumers[i]? = some .acknowledging → 0 < S.worker.pending) ∧
      ∀ before after B t, events = before ++ .request .flush :: after →
        (fresh service store clock).run env before = some B →
        S.tasks[B.tasks.length]? = some t → t.call = .over .done →
        ∃ earlier later R, after = earlier ++ later ∧
          (fresh service store clock).run env (before ++ .request .flush :: earlier) = some R ∧
          (Ledger.ofMarks ((fresh service store clock).along env marks
            (before ++ .request .flush :: earlier))).settled =
              (fresh service store clock).along env sends (before ++ .request .flush :: earlier) := by
  have counted : S.Exact := exact h
  rw [Exact, countP_holds, (oneHasQueue h).countP_isBusy, ← Nat.add_assoc] at counted
  refine ⟨counted, fun i at_ => ?_, fun before after B t split hB at_ ended => ?_⟩
  · have busy : S.worker.consumers.any Stage.isBusy = true :=
      List.any_eq_true.mpr ⟨_, List.mem_of_getElem? at_, rfl⟩
    rw [busy, if_pos rfl] at counted
    omega
  · subst split
    obtain ⟨C, hC, hS⟩ := Option.bind_eq_some_iff.mp (run_of_append h hB)
    cases hC
    have asked : (B.tasks ++ [⟨.flush, .flush⟩])[B.tasks.length]? = some ⟨.flush, .flush⟩ :=
      List.getElem?_concat_length
    obtain waits | ⟨earlier, later, R, rfl, hR, none_⟩ := flush_waits hS asked
    · cases at_.symm.trans waits
      cases ended
    · have upTo : (fresh service store clock).run env (before ++ .request .flush :: earlier) =
          some R := run_append_eq_some.mpr ⟨B, hB, hR⟩
      exact ⟨earlier, later, R, rfl, upTo, settled_of_none_pending upTo none_⟩

/-- The consumer does not survive the second outcome that it stores. -/
def lossyEnv : WorkerEnv Unit CountedStore :=
  .ofOutcome (fun _ => none) (fun n => if n = 3 then some .breaks else none) fun _ code =>
    .assessed (.graded .failed 0 code)

def lossyStore : CountedStore :=
  { store := ⟨[.fresh ⟨1⟩ (lossyEnv.date 0) "sqli_001" "one" none,
      .fresh ⟨2⟩ (lossyEnv.date 0) "xss_001" "two" none]⟩ }

def lossyBefore : List Event :=
  Request.start.events 0 1 ++ (Request.enqueue ⟨1⟩).events 1 2 ++ List.replicate 2 (.consumer 0)

/-- The flush returns. Then the consumer dies over the second id, and another is started, which takes
an id while one is queued and one more is counted, but not sent yet. -/
def lossyAfter : List Event :=
  List.replicate 2 (.consumer 0) ++ .wait 5 :: List.replicate 3 (.consumer 0) ++ .call 2 ::
    (Request.enqueue ⟨2⟩).events 3 2 ++ List.replicate 3 (.consumer 0) ++
    .wait 5 :: List.replicate 2 (.consumer 0) ++ Request.start.events 4 1 ++
    (Request.enqueue ⟨1⟩).events 5 2 ++ (Request.enqueue ⟨2⟩).events 6 2 ++
    List.replicate 2 (.consumer 1) ++ (Request.enqueue ⟨1⟩).events 7 1

theorem pending_exact_lossy :
    ∃ B S t, (fresh () lossyStore 0).run lossyEnv lossyBefore = some B ∧
      (fresh () lossyStore 0).run lossyEnv (lossyBefore ++ .request .flush :: lossyAfter) =
        some S ∧
      S.tasks[B.tasks.length]? = some t ∧ t.call = .over .done ∧ S.worker.pending = 4 ∧
      S.worker.pending = S.worker.queued.length + S.unsent.length +
        (if S.worker.consumers.any Stage.isBusy then 1 else 0) + S.worker.consumers.count .dead ∧
      ∃ earlier later R, lossyAfter = earlier ++ later ∧
        (fresh () lossyStore 0).run lossyEnv (lossyBefore ++ .request .flush :: earlier) = some R ∧
        (Ledger.ofMarks ((fresh () lossyStore 0).along lossyEnv marks
          (lossyBefore ++ .request .flush :: earlier))).settled =
            (fresh () lossyStore 0).along lossyEnv sends
              (lossyBefore ++ .request .flush :: earlier) := by
  have goes : ((fresh () lossyStore 0).run lossyEnv lossyBefore).any (fun B =>
      ((fresh () lossyStore 0).run lossyEnv (lossyBefore ++ .request .flush :: lossyAfter)).any
        fun S => decide (S.worker.pending = 4) && (S.tasks[B.tasks.length]?).any fun t =>
          t.call matches .over .done) = true := by decide +kernel
  obtain ⟨B, hB, goes⟩ := (Option.any_eq_true _ _).mp goes
  obtain ⟨S, hS, goes⟩ := (Option.any_eq_true _ _).mp goes
  obtain ⟨four, goes⟩ := Bool.and_eq_true_iff.mp goes
  obtain ⟨t, at_, ended⟩ := (Option.any_eq_true _ _).mp goes
  have returned : t.call = .over .done := by
    split at ended
    · assumption
    · cases ended
  obtain ⟨counted, _, flushed⟩ := pending_exact hS
  exact ⟨B, S, t, hB, hS, at_, returned, of_decide_eq_true four, counted,
    flushed _ _ B t rfl hB at_ returned⟩

end System

end FixGrader
