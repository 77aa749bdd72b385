import FixGrader.Proofs.Submission.Document
import FixGrader.Proofs.Worker.Records
import FixGrader.Store.Remote

namespace FixGrader

/-- What happens before a call: the connection is lost or not, and the server is going to fail some
commands. -/
structure Disruption where
  alive : Bool := true
  faults : List ServerFault := []
  deriving DecidableEq, Repr

/-- One of the two attempts of a call succeeds. The first one fails if the connection is lost or the
server fails the command. -/
def Disruption.Bearable (d : Disruption) : Prop :=
  d.faults.length + (if d.alive then 0 else 1) ≤ 1

instance (d : Disruption) : Decidable d.Bearable :=
  inferInstanceAs (Decidable (d.faults.length + (if d.alive then 0 else 1) ≤ 1))

namespace Connection

def disrupt (c : Connection) (d : Disruption) : Connection :=
  { server := { c.server with faults := d.faults }, alive := d.alive }

variable {α : Type} (command : KeyValueServer → α × KeyValueServer) (c : Connection)
  {d : Disruption}

/-- A call that gets through executes its command once, on the server as it was. -/
theorem attemptTwice_of_bearable (bearable : d.Bearable) :
    (c.disrupt d).attemptTwice command =
      (some (command { c.server with faults := [] }).1,
        ⟨(command { c.server with faults := [] }).2, true⟩) := by
  obtain ⟨alive, faults⟩ := d
  cases alive with
  | false =>
    have none_ : faults = [] := by simpa [Disruption.Bearable] using bearable
    subst none_
    simp [disrupt, attemptTwice, attempt, reconnect]
  | true =>
    cases faults with
    | nil => simp [disrupt, attemptTwice, attempt]
    | cons fault rest =>
      have none_ : rest = [] := by simpa [Disruption.Bearable] using bearable
      subst none_
      simp [disrupt, attemptTwice, attempt, reconnect]

theorem attemptTwice_of_not_bearable (lost : ¬d.Bearable) :
    ∃ alive faults, (c.disrupt d).attemptTwice command =
      (none, ⟨{ c.server with faults }, alive⟩) := by
  obtain ⟨alive, faults⟩ := d
  cases alive with
  | false =>
    cases faults with
    | nil => simp [Disruption.Bearable] at lost
    | cons fault rest =>
      exact ⟨fault != .hangUp, rest, by simp [disrupt, attemptTwice, attempt, reconnect]⟩
  | true =>
    rcases faults with _ | ⟨first, _ | ⟨second, rest⟩⟩
    · simp [Disruption.Bearable] at lost
    · simp [Disruption.Bearable] at lost
    · exact ⟨second != .hangUp, rest, by simp [disrupt, attemptTwice, attempt, reconnect]⟩

/-- What is found on the server under the keys of ids, read as submissions. -/
def Holds (find : Uuid → Option Submission) : Prop :=
  ∀ id, (c.server.texts.lookup (RemoteStore.key id)).map Submission.decode? = (find id).map some

end Connection

inductive StoreCall where
  | load (id : Uuid)
  | save (s : Submission)
  deriving DecidableEq, Repr

namespace StoreCall

def saved? : StoreCall → Option Submission
  | load _ => none
  | save s => some s

def update (find : Uuid → Option Submission) : StoreCall → Uuid → Option Submission
  | load _ => find
  | save s => Function.update find s.id (some s)

def lastSaved (calls : List StoreCall) (id : Uuid) : Option Submission :=
  (calls.filterMap saved?).reverse.find? (·.id == id)

end StoreCall

inductive StoreAnswer where
  | loaded (answer : Except CallFault (Option Submission))
  | saved (answer : Except CallFault Unit)
  deriving DecidableEq

/-- The answer to a call that works, when `find` is what is stored. -/
def StoreAnswer.found (find : Uuid → Option Submission) : StoreCall → StoreAnswer
  | .load id => loaded (.ok (find id))
  | .save _ => saved (.ok ())

def StoreAnswer.failed (fault : CallFault) : StoreCall → StoreAnswer
  | .load _ => loaded (.error fault)
  | .save _ => saved (.error fault)

namespace StoreAccess

variable {τ δ : Type}

def answer (access : StoreAccess τ) (call : StoreCall) (st : τ) : StoreAnswer × τ :=
  match call with
  | .load id =>
    let (loaded, st) := access.load id st
    (.loaded loaded, st)
  | .save s =>
    let (saved, st) := access.save s st
    (.saved saved, st)

/-- The answers to calls one after the other. Before each call something happens to the store. -/
def answers (access : StoreAccess τ) (befall : δ → τ → τ) : List (δ × StoreCall) → τ →
    List StoreAnswer × τ
  | [], st => ([], st)
  | (d, call) :: plan, st =>
    let (answer, st) := access.answer call (befall d st)
    let (rest, st) := answers access befall plan st
    (answer :: rest, st)

end StoreAccess

abbrev Plan := List (Disruption × StoreCall)

namespace Plan

def served (plan : Plan) : List StoreCall := (plan.filter (·.1.Bearable)).map Prod.snd

def due (find : Uuid → Option Submission) : Plan → List StoreAnswer
  | [] => []
  | (d, call) :: plan =>
    if d.Bearable then .found find call :: due (call.update find) plan
    else .failed (.fails RemoteStore.unreachable) call :: due find plan

theorem foldl_update (calls : List StoreCall) (find : Uuid → Option Submission) (id : Uuid) :
    calls.foldl StoreCall.update find id = (StoreCall.lastSaved calls id).or (find id) := by
  -- The last call decides, so the calls are taken from the end.
  induction calls using List.reverseRecOn with
  | nil => rfl
  | append_singleton calls call ih =>
    rw [List.foldl_append, List.foldl_cons, List.foldl_nil]
    rw [StoreCall.lastSaved, List.filterMap_append, List.reverse_append, List.find?_append]
    cases call with
    | load other => exact ih
    | save s =>
      by_cases same : id = s.id
      · subst same
        simp [StoreCall.update, StoreCall.saved?]
      · have other : StoreCall.update (calls.foldl StoreCall.update find) (.save s) id =
            calls.foldl StoreCall.update find id := Function.update_of_ne same _ _
        rw [other, ih]
        simp [StoreCall.saved?, StoreCall.lastSaved, Ne.symm same]

theorem due_append (before after : Plan) (find : Uuid → Option Submission) :
    due find (before ++ after) =
      due find before ++ due (before.served.foldl StoreCall.update find) after := by
  induction before generalizing find with
  | nil => rfl
  | cons p before ih =>
    obtain ⟨d, call⟩ := p
    by_cases bearable : d.Bearable <;> simp [due, served, bearable, ih]

theorem length_due (plan : Plan) (find : Uuid → Option Submission) :
    (due find plan).length = plan.length := by
  induction plan generalizing find with
  | nil => rfl
  | cons p plan ih =>
    obtain ⟨d, call⟩ := p
    by_cases bearable : d.Bearable <;> simp [due, bearable, ih]

end Plan

theorem RemoteStore.key_injective : Function.Injective key := by
  intro u v same
  exact Uuid.toString_injective ((String.append_right_inj _).mp same)

namespace StoreAccess

variable {c : Connection} {d : Disruption} {find : Uuid → Option Submission}

theorem load_of_bearable (holds : c.Holds find) (bearable : d.Bearable) (id : Uuid) :
    RemoteStore.load id (c.disrupt d) =
      (.ok (find id), ⟨{ c.server with faults := [] }, true⟩) := by
  have here := holds id
  rw [RemoteStore.load, Connection.attemptTwice_of_bearable _ c bearable]
  simp only [KeyValueServer.get]
  cases text : c.server.texts.lookup (RemoteStore.key id) with
  | none =>
    rw [text] at here
    simp [Option.map_eq_none_iff.mp here.symm]
  | some text_ =>
    rw [text] at here
    obtain ⟨s, stored, decodes⟩ := Option.map_eq_some_iff.mp here.symm
    simp [stored, ← decodes]

theorem save_of_bearable (bearable : d.Bearable) (s : Submission) :
    RemoteStore.save s (c.disrupt d) =
      (.ok (), ⟨{ c.server with
        texts := KeyValueServer.put (RemoteStore.key s.id) s.encode c.server.texts
        faults := [] }, true⟩) := by
  rw [RemoteStore.save, Connection.attemptTwice_of_bearable _ c bearable]
  rfl

theorem holds_save (holds : c.Holds find) {s : Submission} (dated : s.Dated) {alive : Bool} :
    Connection.Holds ⟨{ c.server with
      texts := KeyValueServer.put (RemoteStore.key s.id) s.encode c.server.texts
      faults := [] }, alive⟩ (Function.update find s.id (some s)) := by
  intro id
  by_cases same : id = s.id
  · subst same
    simp [KeyValueServer.lookup_put_self, Submission.decode?_encode dated]
  · have other : RemoteStore.key id ≠ RemoteStore.key s.id :=
      fun keys => same (RemoteStore.key_injective keys)
    simp [KeyValueServer.lookup_put_of_ne other, Function.update_of_ne same, holds id]

theorem answer_of_bearable (holds : c.Holds find) (bearable : d.Bearable) {call : StoreCall}
    (dated : ∀ s, call = .save s → s.Dated) :
    (remote.answer call (c.disrupt d)).1 = .found find call ∧
      (remote.answer call (c.disrupt d)).2.Holds (call.update find) := by
  cases call with
  | load id =>
    simp only [answer, remote, load_of_bearable holds bearable]
    exact ⟨rfl, holds⟩
  | save s =>
    simp only [answer, remote, save_of_bearable bearable]
    exact ⟨rfl, holds_save holds (dated s rfl)⟩

theorem answer_of_not_bearable (lost : ¬d.Bearable) (call : StoreCall) :
    (remote.answer call (c.disrupt d)).1 = .failed (.fails RemoteStore.unreachable) call ∧
      (remote.answer call (c.disrupt d)).2.server.texts = c.server.texts := by
  cases call with
  | load id =>
    obtain ⟨alive, faults, sent⟩ := c.attemptTwice_of_not_bearable
      (KeyValueServer.get (RemoteStore.key id)) lost
    simp only [answer, remote, RemoteStore.load, sent]
    exact ⟨rfl, trivial⟩
  | save s =>
    obtain ⟨alive, faults, sent⟩ := c.attemptTwice_of_not_bearable
      (KeyValueServer.set (RemoteStore.key s.id) s.encode) lost
    simp only [answer, remote, RemoteStore.save, sent]
    exact ⟨rfl, trivial⟩

theorem answer_of_undecodable (bearable : d.Bearable) {id : Uuid} {text : String}
    (stored : c.server.texts.lookup (RemoteStore.key id) = some text)
    (invalid : Submission.decode? text = none) :
    (remote.answer (.load id) (c.disrupt d)).1 =
        .failed (.fails (.undecodable "invalid document")) (.load id) ∧
      (remote.answer (.load id) (c.disrupt d)).2.server.texts = c.server.texts := by
  simp only [answer, remote, RemoteStore.load, Connection.attemptTwice_of_bearable _ c bearable,
    KeyValueServer.get, stored, invalid]
  exact ⟨rfl, trivial⟩

theorem answers_remote (plan : Plan) (holds : c.Holds find)
    (dated : ∀ p ∈ plan, ∀ s, p.2 = .save s → s.Dated) :
    (remote.answers (fun d c => c.disrupt d) plan c).1 = plan.due find := by
  induction plan generalizing c find with
  | nil => rfl
  | cons p plan ih =>
    obtain ⟨d, call⟩ := p
    have later : ∀ p ∈ plan, ∀ s, p.2 = .save s → s.Dated :=
      fun p hp => dated p (List.mem_cons_of_mem _ hp)
    by_cases bearable : d.Bearable
    · obtain ⟨answer, holds'⟩ :=
        answer_of_bearable holds bearable (dated (d, call) List.mem_cons_self)
      simp only [answers, Plan.due, bearable, if_true, answer, ih holds' later]
    · -- Other commands may fail now than before, but the texts are the same.
      obtain ⟨answer, same⟩ := answer_of_not_bearable (c := c) bearable call
      have holds' : (remote.answer call (c.disrupt d)).2.Holds find := by
        intro id
        rw [same]
        exact holds id
      simp only [answers, Plan.due, bearable, if_false, answer, ih holds' later]

theorem answer_inMemory (call : StoreCall) (st : CountedStore) :
    ((inMemory (fun _ => none) fun _ => none).answer call st).1 = .found st.find? call ∧
      ((inMemory (fun _ => none) fun _ => none).answer call st).2.find? = call.update st.find? := by
  cases call with
  | load id => exact ⟨rfl, rfl⟩
  | save s => exact ⟨rfl, (inMemory_keeps (fun _ => none) fun _ => none).saved s st rfl⟩

theorem answers_inMemory (plan : Plan) (bearable : ∀ p ∈ plan, p.1.Bearable) (st : CountedStore) :
    ((inMemory (fun _ => none) fun _ => none).answers (fun _ st => st) plan st).1 =
      plan.due st.find? := by
  induction plan generalizing st with
  | nil => rfl
  | cons p plan ih =>
    obtain ⟨d, call⟩ := p
    have first : d.Bearable := bearable (d, call) List.mem_cons_self
    have later := ih fun p hp => bearable p (List.mem_cons_of_mem _ hp)
    obtain ⟨answer, update⟩ := answer_inMemory call st
    simp only [answers, Plan.due, first, if_true, answer, later, update]

/-- From a server that holds what lies in memory, as long as all calls get through, the answers are
those from memory. Whatever calls get through, what they load is what the last of them saved. A call
that does not get through says so, and a document that is none is reported; nothing is changed by
either. -/
theorem remote_answers {c : Connection} {st : CountedStore} (holds : c.Holds st.find?) (plan : Plan)
    (dated : ∀ p ∈ plan, ∀ s, p.2 = .save s → s.Dated) :
    ((∀ p ∈ plan, p.1.Bearable) →
      (remote.answers (fun d c => c.disrupt d) plan c).1 =
        ((inMemory (fun _ => none) fun _ => none).answers (fun _ st => st) plan st).1) ∧
    (∀ (before : Plan) d id after, plan = before ++ (d, .load id) :: after → d.Bearable →
      (remote.answers (fun d c => c.disrupt d) plan c).1[before.length]? =
        some (.loaded (.ok ((StoreCall.lastSaved before.served id).or (st.find? id))))) ∧
    (∀ (c : Connection) (d : Disruption) (call : StoreCall), ¬d.Bearable →
      (remote.answer call (c.disrupt d)).1 =
        .failed (.fails (.unreachable "connection lost")) call ∧
      (remote.answer call (c.disrupt d)).2.server.texts = c.server.texts) ∧
    ∀ (c : Connection) (d : Disruption) (id : Uuid) (text : String), d.Bearable →
      c.server.texts.lookup (RemoteStore.key id) = some text → Submission.decode? text = none →
      (remote.answer (.load id) (c.disrupt d)).1 =
        .loaded (.error (.fails (.undecodable "invalid document"))) ∧
      (remote.answer (.load id) (c.disrupt d)).2.server.texts = c.server.texts := by
  have answers := answers_remote plan holds dated
  refine ⟨fun bearable => ?_, fun before d id after split bearable => ?_,
    fun c d call lost => answer_of_not_bearable lost call,
    fun c d id text bearable stored invalid => answer_of_undecodable bearable stored invalid⟩
  · rw [answers, answers_inMemory plan bearable]
  · have here := Plan.length_due before st.find?
    rw [answers, split, Plan.due_append, ← here, List.getElem?_append_right (le_refl _),
      Nat.sub_self, Plan.due, if_pos bearable, List.getElem?_cons_zero, StoreAnswer.found,
      Plan.foldl_update]

def roughRecord (code : String) : Submission :=
  .fresh ⟨1⟩ ⟨⟨2024, 2, 29⟩, 0, 60, 5⟩ "sqli_001" code (some "\"")

/-- The connection is lost before the first save. The server refuses the first command of the second
save, and hangs up on the load. -/
def roughPlan : Plan :=
  [({ alive := false }, .save (roughRecord "one")),
    ({ faults := [.refusal] }, .save (roughRecord "\n")),
    ({}, .load ⟨2⟩),
    ({ faults := [.hangUp] }, .load ⟨1⟩)]

theorem remote_answers_rough :
    Connection.Holds ⟨{}, true⟩ (default : CountedStore).find? ∧
      (∀ p ∈ roughPlan, ∀ s, p.2 = .save s → s.Dated) ∧ (∀ p ∈ roughPlan, p.1.Bearable) ∧
      (remote.answers (fun d c => c.disrupt d) roughPlan ⟨{}, true⟩).1 =
        ((inMemory (fun _ => none) fun _ => none).answers (fun _ st => st) roughPlan {}).1 ∧
      (remote.answers (fun d c => c.disrupt d) roughPlan ⟨{}, true⟩).1[3]? =
        some (.loaded (.ok (some (roughRecord "\n")))) := by
  have holds : Connection.Holds ⟨{}, true⟩ ({} : CountedStore).find? := fun _ => rfl
  have ordinary : Instant.Ordinary ⟨⟨2024, 2, 29⟩, 0, 60, 5⟩ :=
    ⟨by decide, by decide, by decide, by decide, by decide⟩
  have dated : ∀ p ∈ roughPlan, ∀ s, p.2 = .save s → s.Dated := by
    intro p hp s hs
    simp only [roughPlan, List.mem_cons, List.not_mem_nil, or_false] at hp
    rcases hp with rfl | rfl | rfl | rfl <;> cases hs <;> exact ⟨ordinary, ordinary⟩
  have bearable : ∀ p ∈ roughPlan, p.1.Bearable := by decide
  have answers := remote_answers holds roughPlan dated
  exact ⟨holds, dated, bearable, answers.1 bearable,
    answers.2.1 (roughPlan.take 3) _ _ [] rfl (by decide)⟩

end StoreAccess

end FixGrader
