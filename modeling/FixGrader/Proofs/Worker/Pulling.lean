import FixGrader.Proofs.Worker.Draining
import Mathlib.Data.List.ReduceOption

namespace FixGrader

/-- What a pull does with one step. `asked` says whether shutdown is requested at that time. -/
inductive PullMark where
  | looked (asked : Bool)
  | began (asked : Bool)
  | popped (answer : Option Uuid)
  | counted (id : Uuid)
  | sent (id : Uuid)
  deriving DecidableEq, Repr

namespace PullMark

def answer? : PullMark → Option (Option Uuid)
  | popped answer => some answer
  | _ => none

def sent? : PullMark → Option Uuid
  | sent id => some id
  | _ => none

def answers (did : List PullMark) : List (Option Uuid) := did.filterMap answer?

def sends (did : List PullMark) : List Uuid := did.filterMap sent?

@[simp] theorem answers_concat (did : List PullMark) (m : PullMark) :
    answers (did ++ [m]) = answers did ++ m.answer?.toList := by
  cases h : m.answer? <;> simp [answers, h]

@[simp] theorem sends_nil : sends [] = [] := rfl

@[simp] theorem sends_append (did more : List PullMark) :
    sends (did ++ more) = sends did ++ sends more :=
  List.filterMap_append

@[simp] theorem sends_singleton (m : PullMark) : sends [m] = m.sent?.toList := by
  cases h : m.sent? <;> simp [sends, h]

end PullMark

namespace Call

/-- What the next step of a call does, for the pull that it is part of. -/
def pullMarks (asked : Bool) : Call → List PullMark
  | pull _ => [.looked asked]
  | beginPop _ => [.began asked]
  | awaitPop (answer :: _) => [.popped answer]
  | enqueue id _ => [.counted id]
  | send id _ => [.sent id]
  | _ => []

@[simp] theorem sends_pullMarks (asked : Bool) (c : Call) :
    PullMark.sends (c.pullMarks asked) = c.sends := by
  cases c with
  | awaitPop source => cases source <;> rfl
  | _ => rfl

/-- What a pull will still do if shutdown is requested. -/
def ahead : Call → List PullMark
  | pull _ => [.looked true]
  | beginPop [] => [.began true]
  | beginPop (none :: _) => [.began true, .popped none, .looked true]
  | beginPop (some id :: _) =>
    [.began true, .popped (some id), .counted id, .sent id, .looked true]
  | awaitPop (none :: _) => [.popped none, .looked true]
  | awaitPop (some id :: _) => [.popped (some id), .counted id, .sent id, .looked true]
  | enqueue id next => .counted id :: .sent id :: next.ahead
  | send id next => .sent id :: next.ahead
  | _ => []

def owed : Call → List Uuid
  | enqueue id next | send id next => id :: next.owed
  | _ => []

def feeds : Call → Bool
  | .enqueue _ next | .send _ next => next.feeds
  | .pull _ | .beginPop _ | .awaitPop _ | .over _ => true
  | _ => false

structure SoFar (source : List (Option Uuid)) (did : List PullMark) (rest : List (Option Uuid)) :
    Prop where
  split : PullMark.answers did ++ rest = source
  unseen : .looked true ∉ did

/-- A pull, by its stage, after what it did. It returns only when shutdown is requested. -/
inductive Pulls (source : List (Option Uuid)) (asked : Bool) (did : List PullMark) : Call → Prop
  | looking {rest : List (Option Uuid)} (soFar : SoFar source did rest)
      (even : PullMark.sends did = (PullMark.answers did).reduceOption) :
      Pulls source asked did (.pull rest)
  | beginning {rest : List (Option Uuid)} (soFar : SoFar source did rest)
      (even : PullMark.sends did = (PullMark.answers did).reduceOption) :
      Pulls source asked did (.beginPop rest)
  | popping {rest : List (Option Uuid)} (soFar : SoFar source did rest)
      (even : PullMark.sends did = (PullMark.answers did).reduceOption) :
      Pulls source asked did (.awaitPop rest)
  | counting {rest : List (Option Uuid)} {id : Uuid} (soFar : SoFar source did rest)
      (behind : PullMark.sends did ++ [id] = (PullMark.answers did).reduceOption) :
      Pulls source asked did (.enqueue id (.pull rest))
  | sending {rest : List (Option Uuid)} {id : Uuid} (soFar : SoFar source did rest)
      (behind : PullMark.sends did ++ [id] = (PullMark.answers did).reduceOption) :
      Pulls source asked did (.send id (.pull rest))
  | returned {rest : List (Option Uuid)} {earlier : List PullMark} (requested : asked = true)
      (soFar : SoFar source earlier rest)
      (even : PullMark.sends earlier = (PullMark.answers earlier).reduceOption)
      (last : did = earlier ++ [.looked true]) : Pulls source asked did (.over .done)

section

variable {source rest : List (Option Uuid)} {asked : Bool} {did : List PullMark} {c : Call}

theorem SoFar.start : SoFar source [] source := ⟨rfl, List.not_mem_nil⟩

theorem SoFar.concat (soFar : SoFar source did rest) {m : PullMark} (silent : m.answer? = none)
    (ne : m ≠ .looked true) : SoFar source (did ++ [m]) rest where
  split := by simpa [silent] using soFar.split
  unseen := by simpa [ne.symm] using soFar.unseen

theorem SoFar.pop {answer : Option Uuid} (soFar : SoFar source did (answer :: rest)) :
    SoFar source (did ++ [.popped answer]) rest where
  split := by simpa [PullMark.answer?] using soFar.split
  unseen := by simpa using soFar.unseen

theorem Pulls.of_asked (pulls : c.Pulls source asked did) : c.Pulls source true did := by
  cases pulls with
  | returned _ soFar even last => exact .returned rfl soFar even last
  | _ => constructor <;> assumption

theorem Pulls.feeds (pulls : c.Pulls source asked did) : c.feeds = true := by
  cases pulls <;> rfl

/-- The ids that were popped are those that were sent, and the one in hand. -/
theorem Pulls.sends_append (pulls : c.Pulls source asked did) :
    PullMark.sends did ++ c.owed = (PullMark.answers did).reduceOption := by
  cases pulls with
  | looking _ even | beginning _ even | popping _ even => exact (List.append_nil _).trans even
  | counting _ behind | sending _ behind => exact behind
  | returned _ _ even last =>
    subst last
    simpa [owed, PullMark.answer?, PullMark.sent?] using even

theorem Pulls.isPrefix (pulls : c.Pulls source asked did) : PullMark.answers did <+: source := by
  cases pulls with
  | looking soFar | beginning soFar | popping soFar | counting soFar | sending soFar =>
    exact ⟨_, soFar.split⟩
  | returned _ soFar _ last =>
    subst last
    exact ⟨_, by simpa [PullMark.answer?] using soFar.split⟩

theorem Pulls.unseen (pulls : c.Pulls source asked did) : .looked true ∉ did.dropLast := by
  cases pulls with
  | looking soFar | beginning soFar | popping soFar | counting soFar | sending soFar =>
    exact fun mem => soFar.unseen (List.dropLast_subset _ mem)
  | returned _ soFar _ last =>
    rw [last, List.dropLast_concat]
    exact soFar.unseen

/-- At most one pop begins after the request for shutdown. -/
theorem Pulls.count_ahead (pulls : c.Pulls source asked did) :
    c.ahead.count (.began true) ≤ 1 := by
  cases pulls with
  | @beginning rest | @popping rest => rcases rest with _ | ⟨_ | _, _⟩ <;> simp [ahead]
  | looking | counting | sending | returned => simp [ahead]

theorem deadline?_of_feeds (feeds : c.feeds = true) : c.deadline? = none := by
  cases c <;> first | rfl | cases feeds

end

end Call

namespace Worker

variable {σ τ : Type} {env : WorkerEnv σ τ} {w w' : Worker σ τ} {c c' : Call}
  {source : List (Option Uuid)} {did : List PullMark} {i : Nat}

theorem CallTurn.shutdown (h : CallTurn env w c w' c') : w'.shutdown = w.shutdown := by
  cases h with
  | start =>
    unfold Worker.start
    split <;> rfl
  | _ => rfl

theorem Turn.shutdown (h : Turn env w i w') : w'.shutdown = w.shutdown := by
  cases h <;> rfl

theorem CallTurn.pulls (h : CallTurn env w c w' c') (pulls : c.Pulls source w.shutdown did) :
    c'.Pulls source w.shutdown (did ++ c.pullMarks w.shutdown) := by
  cases pulls with
  | looking soFar even =>
    cases h with
    | closed asked =>
      rw [asked]
      exact .returned rfl soFar even rfl
    | opened unasked =>
      rw [unasked]
      refine .beginning (soFar.concat rfl nofun) ?_
      simpa [Call.pullMarks, PullMark.answer?, PullMark.sent?] using even
  | beginning soFar even =>
    cases h with
    | beginPop =>
      refine .popping (soFar.concat rfl nofun) ?_
      simpa [Call.pullMarks, PullMark.answer?, PullMark.sent?] using even
  | popping soFar even =>
    cases h with
    | popNone =>
      refine .looking soFar.pop ?_
      simpa [Call.pullMarks, PullMark.answer?, PullMark.sent?, List.reduceOption_append] using even
    | popId =>
      refine .counting soFar.pop ?_
      simpa [Call.pullMarks, PullMark.answer?, PullMark.sent?, List.reduceOption_append] using even
  | counting soFar behind =>
    cases h with
    | count =>
      refine .sending (soFar.concat rfl nofun) ?_
      simpa [Call.pullMarks, PullMark.answer?, PullMark.sent?] using behind
  | sending soFar behind =>
    cases h with
    | send =>
      refine .looking (soFar.concat rfl nofun) ?_
      simpa [Call.pullMarks, PullMark.answer?, PullMark.sent?] using behind
  | returned => cases h

theorem CallTurn.feeds (h : CallTurn env w c w' c') (feeds : c.feeds = true) :
    w'.consumers = w.consumers ∧ w'.current = w.current ∧ c'.feeds = true := by
  cases h with
  | count | send => exact ⟨rfl, rfl, feeds⟩
  | closed | opened | beginPop | popId | popNone => exact ⟨rfl, rfl, rfl⟩
  | _ => cases feeds

/-- Once shutdown is requested, a step of a pull is the next thing that it has ahead. -/
theorem CallTurn.ahead (h : CallTurn env w c w' c') (feeds : c.feeds = true)
    (asked : w.shutdown = true) : c.pullMarks w.shutdown ++ c'.ahead = c.ahead := by
  rw [asked]
  cases h with
  | opened unasked => cases asked.symm.trans unasked
  | @beginPop source => rcases source with _ | ⟨_ | _, _⟩ <;> rfl
  | count | send | closed | popNone | popId => rfl
  | _ => cases feeds

theorem step_isSome_of_feeds (env : WorkerEnv σ τ) (w : Worker σ τ) (feeds : c.feeds = true)
    (going : ∀ r, c ≠ .over r) (ending : c ≠ .awaitPop []) : (w.step env c).isSome = true := by
  cases c with
  | enqueue | send | pull | beginPop => rfl
  | awaitPop source =>
    rcases source with _ | ⟨_ | _, _⟩
    · exact absurd rfl ending
    · rfl
    · rfl
  | start | stop | stopping | sendStop | awaitExit | flush | submit | rescore | examine | restore =>
    cases feeds
  | _ => exact absurd rfl (going _)

end Worker

namespace System

variable {σ τ α : Type} {env : WorkerEnv σ τ} {S T : System σ τ} {e : Event} {events : List Event}
  {service : σ} {store : τ} {clock : Nat} {f : Bool → Call → List α} {k : Nat}

/-- What an event has to do with task `k`, seen at its call and at the request for shutdown. -/
def ofTask (f : Bool → Call → List α) (k : Nat) (S : System σ τ) (e : Event) : List α :=
  if e = .call k then ((S.tasks[k]?).map fun t => f S.worker.shutdown t.call).getD [] else []

/-- What task `k` does, as a pull. -/
def pullMarks (k : Nat) : System σ τ → Event → List PullMark := ofTask Call.pullMarks k

theorem ofTask_of_ne (ne : e ≠ .call k) : ofTask f k S e = [] := if_neg ne

theorem ofTask_call {t : Task} (at_ : S.tasks[k]? = some t) :
    ofTask f k S (.call k) = f S.worker.shutdown t.call := by
  simp [ofTask, at_]

theorem Happens.shutdown_cases (h : Happens env S e T) :
    T.worker.shutdown = S.worker.shutdown ∨ T.worker.shutdown = true := by
  cases h with
  | request | giveUp | wait => exact .inl rfl
  | call _ turn => exact .inl turn.shutdown
  | consumer turn => exact .inl turn.shutdown
  | shutdown => exact .inr rfl

theorem Happens.length_tasks (h : Happens env S e T) : S.tasks.length ≤ T.tasks.length := by
  cases h with
  | request => simp
  | call | giveUp => simp [setCall]
  | consumer | wait | shutdown => exact Nat.le_refl _

theorem along_ofTask_of_le (h : (fresh service store clock).run env events = some S)
    (new : S.tasks.length ≤ k) : (fresh service store clock).along env (ofTask f k) events = [] := by
  revert new
  refine run_induction (motive := fun events S => S.tasks.length ≤ k →
    (fresh service store clock).along env (ofTask f k) events = []) (fun _ => rfl) ?_ h
  intro events R e T hR ih hT new
  have grows := (happens_of_step hT).length_tasks
  have none_ : R.tasks[k]? = none := List.getElem?_eq_none (by omega)
  rw [along_concat _ hR, ih (by omega), ofTask, none_]
  simp

/-- What the steps of a task keep, and a request for shutdown does not break, is there at the end of
each run. -/
theorem along_ofTask {motive : Bool → Call → List α → Prop} {r : Request} {b : Call}
    (at_ : S.tasks[k]? = some ⟨r, b⟩) (start : motive S.worker.shutdown b [])
    (next : ∀ {w w' : Worker σ τ} {c c' did}, motive w.shutdown c did → w.CallTurn env c w' c' →
      motive w.shutdown c' (did ++ f w.shutdown c))
    (asked : ∀ {asked c did}, motive asked c did → motive true c did)
    (patient : ∀ {asked c did}, motive asked c did → c.deadline? = none)
    (h : S.run env events = some T) :
    ∃ c, T.tasks[k]? = some ⟨r, c⟩ ∧
      motive T.worker.shutdown c (S.along env (ofTask f k) events) := by
  refine run_induction (motive := fun events T => ∃ c, T.tasks[k]? = some ⟨r, c⟩ ∧
    motive T.worker.shutdown c (S.along env (ofTask f k) events)) ⟨b, at_, start⟩ ?_ h
  rintro events R e T hR ⟨c, at_, so⟩ hT
  have hap := happens_of_step hT
  rw [along_concat _ hR]
  by_cases he : e = .call k
  · subst he
    cases hap with
    | @call _ t w d at_' turn =>
      cases at_.symm.trans at_'
      refine ⟨d, setCall_at at_ _ _, ?_⟩
      rw [ofTask_call at_]
      change motive w.shutdown _ _
      rw [turn.shutdown]
      exact next so turn
  · refine ⟨c, hap.keeps_task at_ he (patient so), ?_⟩
    rw [ofTask_of_ne he, List.append_nil]
    obtain same | raised := hap.shutdown_cases
    · exact same ▸ so
    · exact raised ▸ asked so

theorem exists_request (h : (fresh service store clock).run env events = some S) {t : Task}
    (at_ : S.tasks[k]? = some t) :
    ∃ before after B, events = before ++ .request t.request :: after ∧
      (fresh service store clock).run env before = some B ∧ B.tasks.length = k := by
  revert t
  refine run_induction (motive := fun events S => ∀ {t : Task}, S.tasks[k]? = some t →
    ∃ before after B, events = before ++ .request t.request :: after ∧
      (fresh service store clock).run env before = some B ∧ B.tasks.length = k) ?_ ?_ h
  · intro t at_
    simp [fresh] at at_
  · intro events R e T hR ih hT t at_
    have earlier : ∀ {u : Task}, R.tasks[k]? = some u → u.request = t.request →
        ∃ before after B, events ++ [e] = before ++ .request t.request :: after ∧
          (fresh service store clock).run env before = some B ∧ B.tasks.length = k := by
      intro u was same
      obtain ⟨before, after, B, rfl, hB, new⟩ := ih was
      exact ⟨before, after ++ [e], B, by simp [same], hB, new⟩
    cases happens_of_step hT with
    | request r =>
      obtain at_ | ⟨new, rfl⟩ := getElem?_concat_cases at_
      · exact earlier at_ rfl
      · exact ⟨events, [], R, rfl, hR, new.symm⟩
    | call was | giveUp was =>
      obtain ⟨rfl, rfl⟩ | ⟨_, at_⟩ := getElem?_set_cases at_
      · exact earlier was rfl
      · exact earlier at_ rfl
    | consumer | wait | shutdown => exact earlier at_ rfl

theorem pulls {source : List (Option Uuid)} {c : Call}
    (h : (fresh service store clock).run env events = some S)
    (at_ : S.tasks[k]? = some ⟨.pull source, c⟩) :
    c.Pulls source S.worker.shutdown
      ((fresh service store clock).along env (pullMarks k) events) := by
  obtain ⟨before, after, B, rfl, hB, new⟩ := exists_request h at_
  obtain ⟨A, hA, hS⟩ := Option.bind_eq_some_iff.mp (run_of_append h hB)
  cases hA
  -- Before the request the task has done nothing, and the request is no step of it.
  have other : Event.request (.pull source) ≠ .call k := by simp
  have asked_ : ({ B with tasks := B.tasks ++ [⟨.pull source, .pull source⟩] } :
      System σ τ).tasks[k]? = some ⟨.pull source, .pull source⟩ := by
    rw [← new]
    exact List.getElem?_concat_length
  obtain ⟨d, now, pulls⟩ := along_ofTask (f := Call.pullMarks)
    (motive := fun asked c did => c.Pulls source asked did) asked_ (.looking .start rfl)
    (fun pulls turn => turn.pulls pulls) (fun pulls => pulls.of_asked)
    (fun pulls => Call.deadline?_of_feeds pulls.feeds) hS
  cases at_.symm.trans now
  rw [along_append _ hB, pullMarks, along_ofTask_of_le hB (Nat.le_of_eq new)]
  simpa [along, step, ofTask_of_ne other, Request.call] using pulls

/-- From the request for shutdown on, a pull does what it has ahead and nothing else. -/
theorem along_ahead {source : List (Option Uuid)} {b c : Call} (h : S.run env events = some T)
    (requested : S.worker.shutdown = true) (was : S.tasks[k]? = some ⟨.pull source, b⟩)
    (feeds : b.feeds = true) (at_ : T.tasks[k]? = some ⟨.pull source, c⟩) :
    S.along env (pullMarks k) events ++ c.ahead = b.ahead := by
  obtain ⟨d, now, _, _, ahead⟩ := along_ofTask (f := Call.pullMarks)
    (motive := fun asked c did => asked = true ∧ c.feeds = true ∧ did ++ c.ahead = b.ahead) was
    ⟨requested, feeds, rfl⟩
    (fun {w w' c c' did} ⟨asked, feeds, so⟩ turn => ⟨asked, (turn.feeds feeds).2.2, by
      rw [List.append_assoc, turn.ahead feeds asked, so]⟩)
    (fun ⟨_, feeds, so⟩ => ⟨rfl, feeds, so⟩) (fun ⟨_, feeds, _⟩ => Call.deadline?_of_feeds feeds) h
  cases at_.symm.trans now
  exact ahead

end System

end FixGrader
