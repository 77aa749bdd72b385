import FixGrader.Proofs.Worker.Records

namespace FixGrader

def Event.submission? : Event → Option Submission
  | request (.submit s) => some s
  | _ => none

def Event.newIds (events : List Event) : List Uuid :=
  (events.filterMap submission?).map Submission.id

namespace Worker

variable {σ τ : Type} {env : WorkerEnv σ τ} {w w' : Worker σ τ} {i : Nat}
  {find : τ → Uuid → Option Submission}

/-- The record with this id is stored, and may still be decided. -/
def Open (find : τ → Uuid → Option Submission) (w : Worker σ τ) (id : Uuid) : Prop :=
  ∃ r, find w.store id = some r ∧ r.status.isTerminal = false

/-- Whatever consumers have in hand is open in the store. -/
structure Undecided (find : τ → Uuid → Option Submission) (w : Worker σ τ) : Prop where
  copies : ∀ (i : Nat) (stage : Stage) (s : Submission), w.consumers[i]? = some stage →
    stage.copy? = some s → w.Open find s.id
  marked : ∀ (i : Nat) (s : Submission), w.consumers[i]? = some (.marking s) → s.status = .running

theorem Open.congr {id : Uuid} (h : w.Open find id) (same : find w'.store = find w.store) :
    w'.Open find id := by
  unfold Open
  rwa [same]

theorem open_of_update {s : Submission} {id : Uuid}
    (update : find w'.store = Function.update (find w.store) s.id (some s))
    (h : w.Open find id) (live : s.id = id → s.status.isTerminal = false) : w'.Open find id := by
  unfold Open
  rw [update]
  by_cases hid : s.id = id
  · subst hid
    exact ⟨s, by simp, live rfl⟩
  · rw [Function.update_of_ne (Ne.symm hid)]
    exact h

/-- What a consumer has in hand after its step is open: it has just loaded or marked it, or it had
it in hand before. -/
theorem Turn.open_copy (keeps : env.store.Keeps find) (h : Turn env w i w')
    (u : w.Undecided find) {stage : Stage} {s : Submission} (at_ : w'.consumers[i]? = some stage)
    (copy : stage.copy? = some s) : w'.Open find s.id := by
  cases h with
  | letIn | halt | begin | loadBreaks | loadFails | missing | skip | saveBreaks | markFails | stored
  | giveUpFails | acknowledge =>
    cases stage_of_enter at_
    cases copy
  | @take id s store _ load due =>
    cases stage_of_enter at_
    cases copy
    have op : w.Open find s.id := ⟨s, found_of_load keeps load, by simp [due, Status.isTerminal]⟩
    exact op.congr (find_of_load keeps load)
  | pass before save =>
    cases stage_of_enter at_
    cases copy
    refine open_of_update (find_of_save keeps save) (u.copies i _ _ before rfl) fun _ => ?_
    simp [u.marked i _ before, Status.isTerminal]
  | conclude before =>
    cases stage_of_enter at_
    cases copy
    simpa using! u.copies i _ _ before rfl
  | storeFails before save | retryFails before save =>
    cases stage_of_enter at_
    cases copy
    exact (u.copies i _ _ before rfl).congr (find_of_fault keeps save)

theorem Turn.marking_status (h : Turn env w i w') {s : Submission}
    (at_ : w'.consumers[i]? = some (.marking s)) : s.status = .running := by
  cases h <;> cases stage_of_enter at_
  rfl

end Worker

namespace System

variable {σ τ : Type} {env : WorkerEnv σ τ} {S T : System σ τ} {e : Event}
  {find : τ → Uuid → Option Submission} {known known' : Uuid → Prop}

/-- Calls know what they have in hand: submissions to come are not stored yet, and what is to be
reset is stored. -/
structure Tracked (find : τ → Uuid → Option Submission) (known : Uuid → Prop)
    (S : System σ τ) : Prop where
  stored : ∀ id, (find S.worker.store id).isSome → known id
  submits : ∀ (k : Nat) (t : Task) (s : Submission), S.tasks[k]? = some t →
    t.call.core = .submit s → find S.worker.store s.id = none ∧ known s.id
  apart : ∀ (k l : Nat) (t u : Task) (s r : Submission), S.tasks[k]? = some t →
    S.tasks[l]? = some u → t.call.core = .submit s → u.call.core = .submit r → s.id = r.id → k = l
  examines : ∀ (k : Nat) (t : Task) (i : Uuid) (s : Submission) (code : Option String),
    S.tasks[k]? = some t → t.call.core = .examine i s code → (find S.worker.store s.id).isSome
  restores : ∀ (k : Nat) (t : Task) (i : Uuid) (s : Submission), S.tasks[k]? = some t →
    t.call.core = .restore i s → (find S.worker.store s.id).isSome

theorem Happens.undecided (keeps : env.store.Keeps find) (h : Happens env S e T)
    (one : S.worker.OneHasQueue) (fits : ∀ t ∈ S.tasks, t.Fits) (tracked : S.Tracked find known)
    (u : S.worker.Undecided find) : T.worker.Undecided find := by
  refine ⟨fun i stage s at_ copy => ?_, fun i s at_ => ?_⟩
  · obtain ⟨ne, before⟩ | rfl | ⟨rfl, turn⟩ := h.stage_cases at_
    · have op := u.copies i stage s before copy
      obtain same | ⟨r, saving, update⟩ := h.find_cases keeps
      · exact op.congr same
      · refine Worker.open_of_update update op fun hid => ?_
        cases e with
        | call k =>
          obtain ⟨t, ht, saving⟩ := Option.bind_eq_some_iff.mp saving
          obtain core | ⟨_, core⟩ := Call.core_of_saving saving
          · obtain ⟨_, stored, _⟩ := op
            simp [← hid, (tracked.submits k t r ht core).1] at stored
          · have fit := fits t (List.mem_of_getElem? ht)
            rw [Task.Fits, core] at fit
            obtain ⟨_, _, _, pending, _⟩ := fit
            simp [pending, Status.isTerminal]
        | consumer j =>
          obtain ⟨other, hj, saving⟩ := Option.bind_eq_some_iff.mp saving
          have := one i j stage other before hj (Stage.hasQueue_of_copy copy)
            (Worker.hasQueue_of_saving saving)
          exact absurd (congrArg Event.consumer this.symm) ne
        | _ => cases saving
    · cases copy
    · exact turn.open_copy keeps u at_ copy
  · obtain ⟨_, before⟩ | h | ⟨rfl, turn⟩ := h.stage_cases at_
    · exact u.marked i s before
    · cases h
    · exact turn.marking_status at_

theorem Tracked.saving_ne (tracked : S.Tracked find known) (u : S.worker.Undecided find) {k : Nat}
    {t : Task} {s r : Submission} (at_ : S.tasks[k]? = some t) (core : t.call.core = .submit s)
    (waits : e = .call k → t.call.saving? = none) (saving : S.saving? e = some r) :
    s.id ≠ r.id := by
  intro hid
  have unstored := (tracked.submits k t s at_ core).1
  cases e with
  | call j =>
    obtain ⟨t', hj, saving⟩ := Option.bind_eq_some_iff.mp saving
    obtain core' | ⟨i, core'⟩ := Call.core_of_saving saving
    · obtain rfl := tracked.apart k j t t' s r at_ hj core core' hid
      cases at_.symm.trans hj
      simp [waits rfl] at saving
    · simpa [← hid, unstored] using tracked.restores j t' i r hj core'
  | consumer i =>
    obtain ⟨stage, hi, saving⟩ := Option.bind_eq_some_iff.mp saving
    obtain ⟨_, stored, _⟩ := u.copies i stage r hi (Stage.copy?_of_saving saving)
    simp [← hid, unstored] at stored
  | _ => cases saving

theorem Tracked.known_of_saving (tracked : S.Tracked find known) (u : S.worker.Undecided find)
    {r : Submission} (saving : S.saving? e = some r) : known r.id := by
  cases e with
  | call j =>
    obtain ⟨t, hj, saving⟩ := Option.bind_eq_some_iff.mp saving
    obtain core | ⟨i, core⟩ := Call.core_of_saving saving
    · exact (tracked.submits j t r hj core).2
    · exact tracked.stored _ (tracked.restores j t i r hj core)
  | consumer i =>
    obtain ⟨stage, hi, saving⟩ := Option.bind_eq_some_iff.mp saving
    obtain ⟨_, stored, _⟩ := u.copies i stage r hi (Stage.copy?_of_saving saving)
    exact tracked.stored _ (by simp [stored])
  | _ => cases saving

theorem Happens.submit_cases (h : Happens env S e T) {k : Nat} {u : Task} {s : Submission}
    (at_ : T.tasks[k]? = some u) (core : u.call.core = .submit s) :
    (∃ t, S.tasks[k]? = some t ∧ t.call.core = .submit s ∧
      (e = .call k → t.call.saving? = none)) ∨
      e = .request (.submit s) ∧ k = S.tasks.length := by
  obtain ⟨ne, before⟩ | ⟨r, rfl, hk, rfl⟩ | ⟨t, rfl, before, _, turn⟩ | ended := h.task_cases at_
  · exact .inl ⟨u, before, core, fun he => absurd he ne⟩
  · cases r <;> cases core
    exact .inr ⟨rfl, hk⟩
  · exact .inl ⟨t, before, (turn.core_submit core).1, fun _ => (turn.core_submit core).2⟩
  · rw [ended] at core
    cases core

theorem Happens.tracked (keeps : env.store.Keeps find) (h : Happens env S e T)
    (u : S.worker.Undecided find) (tracked : S.Tracked find known)
    (more : ∀ id, known id → known' id)
    (new : ∀ s, e = .request (.submit s) → ¬known s.id ∧ known' s.id) : T.Tracked find known' where
  stored id hid := by
    obtain same | ⟨r, saving, update⟩ := h.find_cases keeps
    · exact more id (tracked.stored id (by rwa [same] at hid))
    · by_cases hr : id = r.id
      · exact more id (hr ▸ tracked.known_of_saving u saving)
      · rw [update, Function.update_of_ne hr] at hid
        exact more id (tracked.stored id hid)
  submits k t s at_ core := by
    obtain ⟨t, before, core, waits⟩ | ⟨rfl, _⟩ := h.submit_cases at_ core
    · obtain ⟨unstored, hk⟩ := tracked.submits k t s before core
      refine ⟨?_, more _ hk⟩
      obtain same | ⟨r, saving, update⟩ := h.find_cases keeps
      · rw [same, unstored]
      · rw [update, Function.update_of_ne (tracked.saving_ne u before core waits saving), unstored]
    · obtain ⟨unknown, hk⟩ := new s rfl
      refine ⟨?_, hk⟩
      cases h
      by_contra stored
      exact unknown (tracked.stored _ (Option.isSome_iff_ne_none.mpr stored))
  apart k l t t' s r at_ hl core core' hid := by
    obtain ⟨t, before, core, _⟩ | ⟨rfl, hk⟩ := h.submit_cases at_ core
    · obtain ⟨t', before', core', _⟩ | ⟨rfl, hl'⟩ := h.submit_cases hl core'
      · exact tracked.apart k l t t' s r before before' core core' hid
      · exact absurd (hid ▸ (tracked.submits k t s before core).2) (new r rfl).1
    · obtain ⟨t', before', core', _⟩ | ⟨_, hl'⟩ := h.submit_cases hl core'
      · exact absurd (hid ▸ (tracked.submits l t' r before' core').2) (new s rfl).1
      · rw [hk, hl']
  examines k t i s code at_ core := by
    obtain ⟨_, before⟩ | ⟨r, rfl, _, rfl⟩ | ⟨t, rfl, before, _, turn⟩ | ended := h.task_cases at_
    · exact h.find_isSome keeps (tracked.examines k t i s code before core)
    · cases r <;> cases core
    · refine h.find_isSome keeps ?_
      obtain core | ⟨_, found⟩ := turn.core_examine keeps core
      · exact tracked.examines k t i s code before core
      · simp [keeps.named _ _ _ found, found]
    · rw [ended] at core
      cases core
  restores k t i s at_ core := by
    obtain ⟨_, before⟩ | ⟨r, rfl, _, rfl⟩ | ⟨t, rfl, before, _, turn⟩ | ended := h.task_cases at_
    · exact h.find_isSome keeps (tracked.restores k t i s before core)
    · cases r <;> cases core
    · obtain core | ⟨r, code, examine, rfl⟩ := turn.core_restore core
      · exact h.find_isSome keeps (tracked.restores k t i s before core)
      · exact h.find_isSome keeps (tracked.examines k t i r code before (by rw [examine]; rfl))
    · rw [ended] at core
      cases core

variable {service : σ} {store : τ} {clock : Nat} {events before after : List Event}

theorem newIds_append (before after : List Event) :
    Event.newIds (before ++ after) = Event.newIds before ++ Event.newIds after := by
  simp [Event.newIds]

theorem tracked_undecided (keeps : env.store.Keeps find)
    (nodup : (Event.newIds events).Nodup)
    (new : ∀ id ∈ Event.newIds events, find store id = none)
    (h : (fresh service store clock).run env events = some S) :
    S.Tracked find (fun id => (find store id).isSome ∨ id ∈ Event.newIds events) ∧
      S.worker.Undecided find := by
  revert nodup new
  refine run_induction (motive := fun events S => (Event.newIds events).Nodup →
    (∀ id ∈ Event.newIds events, find store id = none) →
      S.Tracked find (fun id => (find store id).isSome ∨ id ∈ Event.newIds events) ∧
        S.worker.Undecided find) ?_ ?_ h
  · intro _ _
    exact ⟨⟨fun _ => .inl, by simp [fresh], by simp [fresh], by simp [fresh], by simp [fresh]⟩,
      ⟨by simp [fresh], by simp [fresh]⟩⟩
  · intro events R e T hR ih hT nodup new
    rw [newIds_append] at nodup new
    obtain ⟨nodup, _, apart⟩ := List.nodup_append.mp nodup
    obtain ⟨tracked, u⟩ := ih nodup fun id hid => new id (by simp [hid])
    have hap := happens_of_step hT
    refine ⟨hap.tracked keeps u tracked (fun id => ?_) fun s he => ?_,
      hap.undecided keeps (oneHasQueue hR) (fits keeps hR) tracked u⟩
    · rw [newIds_append, List.mem_append]
      tauto
    · have hs : s.id ∈ Event.newIds [e] := by simp [he, Event.newIds, Event.submission?]
      rw [newIds_append, List.mem_append]
      refine ⟨fun known => ?_, .inr (.inr hs)⟩
      obtain stored | old := known
      · simp [new s.id (by simp [hs])] at stored
      · exact apart _ old _ hs rfl

theorem tracked_undecided_before (keeps : env.store.Keeps find)
    (nodup : (Event.newIds (before ++ after)).Nodup)
    (new : ∀ id ∈ Event.newIds (before ++ after), find store id = none)
    (h : (fresh service store clock).run env before = some S) :
    S.Tracked find (fun id => (find store id).isSome ∨ id ∈ Event.newIds before) ∧
      S.worker.Undecided find := by
  rw [newIds_append] at nodup new
  exact tracked_undecided keeps (List.nodup_append.mp nodup).1
    (fun id hid => new id (List.mem_append_left _ hid)) h

/-- The event is the save by which a rescore puts the record `id` back to pending. -/
def Resets (env : WorkerEnv σ τ) (find : τ → Uuid → Option Submission) (S : System σ τ)
    (id : Uuid) (e : Event) : Prop :=
  ∃ k code s T, e = .call k ∧ S.tasks[k]? = some ⟨.rescore id code, .restore id s⟩ ∧
    S.step env e = some T ∧ find T.worker.store id = some s ∧ s.status = .pending

theorem kept_or_resets (keeps : env.store.Keeps find) (hT : S.step env e = some T)
    (fits : ∀ t ∈ S.tasks, t.Fits) (tracked : S.Tracked find known)
    (u : S.worker.Undecided find) {id : Uuid} {r : Submission}
    (stored : find S.worker.store id = some r) (terminal : r.status.isTerminal = true) :
    find T.worker.store id = some r ∨ S.Resets env find id e := by
  obtain same | ⟨s, saving, update⟩ := (happens_of_step hT).find_cases keeps
  · exact .inl (by rw [same, stored])
  by_cases hid : id = s.id
  · subst hid
    refine .inr ?_
    cases e with
    | call k =>
      obtain ⟨⟨request, c⟩, at_, saving⟩ := Option.bind_eq_some_iff.mp saving
      have fit := fits _ (List.mem_of_getElem? at_)
      cases c <;> cases saving
      · simp [(tracked.submits k _ s at_ rfl).1] at stored
      · obtain ⟨rfl, code, rfl, pending, _⟩ := fit
        exact ⟨k, code, s, T, rfl, at_, hT, by simp [update], pending⟩
    | consumer i =>
      obtain ⟨stage, at_, saving⟩ := Option.bind_eq_some_iff.mp saving
      obtain ⟨r', stored', live⟩ := u.copies i stage s at_ (Stage.copy?_of_saving saving)
      cases stored.symm.trans stored'
      simp [live] at terminal
    | _ => cases saving
  · exact .inl (by rw [update, Function.update_of_ne hid, stored])

/-- Before each of the events and after the last the same record is stored at `id`. -/
def Stays (env : WorkerEnv σ τ) (find : τ → Uuid → Option Submission) (S : System σ τ) (id : Uuid)
    (r : Submission) (events : List Event) : Prop :=
  ∀ before after R, events = before ++ after → S.run env before = some R →
    find R.worker.store id = some r

theorem stays_nil {id : Uuid} {r : Submission} (stored : find S.worker.store id = some r) :
    S.Stays env find id r [] := by
  intro before after R split hR
  obtain ⟨rfl, rfl⟩ := List.append_eq_nil_iff.mp split.symm
  cases hR
  exact stored

theorem stays_cons {id : Uuid} {r : Submission} (hT : S.step env e = some T)
    (stored : find S.worker.store id = some r) (stays : T.Stays env find id r events) :
    S.Stays env find id r (e :: events) := by
  intro before after R split hR
  cases before with
  | nil => cases hR; exact stored
  | cons e' before =>
    obtain ⟨rfl, rest⟩ := List.cons.inj split
    obtain ⟨T', hT', hR⟩ := Option.bind_eq_some_iff.mp hR
    cases hT.symm.trans hT'
    exact stays before after R rest hR

theorem stays_or_resets (keeps : env.store.Keeps find)
    (nodup : (Event.newIds (before ++ after)).Nodup)
    (new : ∀ id ∈ Event.newIds (before ++ after), find store id = none)
    (hS : (fresh service store clock).run env before = some S) (hT : S.run env after = some T)
    {id : Uuid} {r : Submission} (stored : find S.worker.store id = some r)
    (terminal : r.status.isTerminal = true) :
    S.Stays env find id r after ∨
      ∃ earlier e later R, after = earlier ++ e :: later ∧ S.Stays env find id r earlier ∧
        S.run env earlier = some R ∧ R.Resets env find id e := by
  induction after generalizing before S with
  | nil => exact .inl (stays_nil stored)
  | cons e after ih =>
    obtain ⟨R, hR, hT⟩ := Option.bind_eq_some_iff.mp hT
    obtain ⟨tracked, u⟩ := tracked_undecided_before keeps nodup new hS
    obtain kept | resets := kept_or_resets keeps hR (fits keeps hS) tracked u stored terminal
    · rw [List.append_cons] at nodup new
      obtain stays | ⟨earlier, e', later, Q, rfl, stays, hQ, resets⟩ :=
        ih nodup new (run_concat_eq_some.mpr ⟨S, hS, hR⟩) hT kept
      · exact .inl (stays_cons hR stored stays)
      · exact .inr ⟨e :: earlier, e', later, Q, rfl, stays_cons hR stored stays,
          Option.bind_eq_some_iff.mpr ⟨R, hR, hQ⟩, resets⟩
    · exact .inr ⟨[], e, after, S, rfl, stays_nil stored, rfl, resets⟩

/-- No consumer is ever about to save over a record that has been decided. Such a record stays as it
is at least until a rescore resets it. -/
theorem decided_until_reset (keeps : env.store.Keeps find)
    (nodup : (Event.newIds (before ++ after)).Nodup)
    (new : ∀ id ∈ Event.newIds (before ++ after), find store id = none)
    (hS : (fresh service store clock).run env before = some S) (hT : S.run env after = some T) :
    (∀ i s r, S.saving? (.consumer i) = some s → find S.worker.store s.id = some r →
      r.status.isTerminal = false) ∧
    ∀ id r, find S.worker.store id = some r → r.status.isTerminal = true →
      S.Stays env find id r after ∨
        ∃ earlier e later R, after = earlier ++ e :: later ∧ S.Stays env find id r earlier ∧
          S.run env earlier = some R ∧ R.Resets env find id e := by
  refine ⟨fun i s r saving stored => ?_, fun id r stored terminal =>
    stays_or_resets keeps nodup new hS hT stored terminal⟩
  obtain ⟨_, u⟩ := tracked_undecided_before keeps nodup new hS
  obtain ⟨stage, at_, saving⟩ := Option.bind_eq_some_iff.mp saving
  obtain ⟨r', stored', live⟩ := u.copies i stage s at_ (Stage.copy?_of_saving saving)
  cases stored.symm.trans stored'
  exact live

def retryEnv : WorkerEnv Unit CountedStore :=
  .ofOutcome (fun _ => none) (fun n => if n = 2 then some (.fails (.unreachable "down")) else none)
    fun _ _ => .assessed (.graded .passed 90 "good")

def retryBefore : List Event :=
  Request.start.events 0 1 ++
    (Request.submit (.fresh ⟨1⟩ (retryEnv.date 0) "sqli_001" "code" none)).events 1 3 ++
    List.replicate 4 (.consumer 0) ++ .wait 5 :: List.replicate 3 (.consumer 0)

def retryAfter : List Event :=
  (Request.enqueue ⟨1⟩).events 2 2 ++ List.replicate 4 (.consumer 0) ++
    (Request.rescore ⟨1⟩ none).events 3 3

theorem decided_until_reset_retry :
    (Event.newIds (retryBefore ++ retryAfter)).Nodup ∧
      (∀ id ∈ Event.newIds (retryBefore ++ retryAfter),
        ({} : CountedStore).find? id = none) ∧
      ∃ S T r, (fresh () {} 0).run retryEnv retryBefore = some S ∧
        S.run retryEnv retryAfter = some T ∧ S.worker.store.find? ⟨1⟩ = some r ∧
        r.status.isTerminal = true ∧
        (S.Stays retryEnv CountedStore.find? ⟨1⟩ r retryAfter ∨
          ∃ earlier e later R, retryAfter = earlier ++ e :: later ∧
            S.Stays retryEnv CountedStore.find? ⟨1⟩ r earlier ∧
            S.run retryEnv earlier = some R ∧ R.Resets retryEnv CountedStore.find? ⟨1⟩ e) := by
  have nodup : (Event.newIds (retryBefore ++ retryAfter)).Nodup := by decide
  have new : ∀ id ∈ Event.newIds (retryBefore ++ retryAfter),
      ({} : CountedStore).find? id = none := by decide
  have goes : ((fresh () {} 0).run retryEnv retryBefore).any (fun S =>
      (S.run retryEnv retryAfter).isSome &&
        (S.worker.store.find? ⟨1⟩).any (·.status.isTerminal)) = true := by decide +kernel
  obtain ⟨S, hS, goes⟩ := (Option.any_eq_true _ _).mp goes
  obtain ⟨hT, terminal⟩ := Bool.and_eq_true_iff.mp goes
  obtain ⟨T, hT⟩ := Option.isSome_iff_exists.mp hT
  obtain ⟨r, stored, terminal⟩ := (Option.any_eq_true _ _).mp terminal
  exact ⟨nodup, new, S, T, r, hS, hT, stored, terminal,
    (decided_until_reset (WorkerEnv.ofOutcome_keeps _ _ _) nodup new hS hT).2 _ _ stored terminal⟩

end System

end FixGrader
