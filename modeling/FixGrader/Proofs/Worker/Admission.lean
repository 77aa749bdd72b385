import FixGrader.Proofs.Worker.Provenance

namespace FixGrader

namespace Submission

def HandleFits (s : Submission) : Prop := ∀ handle, s.handle = some handle → handle.length ≤ 64

theorem create_eq_ok {id : Uuid} {now : Instant} {slug code : String} {handle : Option String}
    {s : Submission} (h : create id now slug code handle = .ok s) : s.HandleFits ∧ s.code ≠ "" := by
  unfold create at h
  split at h
  · cases h
  · split at h
    · cases h
    · rename_i full short
      cases h
      refine ⟨fun text given => ?_, fun none_ => full (String.isEmpty_iff.mpr none_)⟩
      have given : handle = some text := given
      simpa [given, maxHandleLength] using short

/-- The record has no code only if a rescore asked for that. -/
structure Admitted (events : List Event) (s : Submission) : Prop where
  handle : s.HandleFits
  code : s.code = "" → .request (.rescore s.id (some "")) ∈ events

theorem Admitted.congr {events : List Event} {s s' : Submission} (h : s.Admitted events)
    (more : List Event) (id : s'.id = s.id) (handle : s'.handle = s.handle)
    (code : s'.code = s.code) : s'.Admitted (events ++ more) where
  handle := by
    rw [HandleFits, handle]
    exact h.handle
  code none_ := by
    rw [id]
    exact List.mem_append_left _ (h.code (code ▸ none_))

end Submission

namespace System

variable {σ τ : Type} {env : WorkerEnv σ τ} {S : System σ τ} {events : List Event} {service : σ}
  {store : τ} {clock : Nat} {find : τ → Uuid → Option Submission}

theorem admitted (keeps : env.store.Keeps find) (empty : ∀ id, find store id = none)
    (new : ∀ s, .request (.submit s) ∈ events →
      ∃ id now slug code handle, Submission.create id now slug code handle = .ok s)
    (h : (fresh service store clock).run env events = some S) :
    S.AllRecords find (Submission.Admitted events) := by
  revert new
  refine run_induction (motive := fun events S => (∀ s, .request (.submit s) ∈ events →
      ∃ id now slug code handle, Submission.create id now slug code handle = .ok s) →
    S.AllRecords find (Submission.Admitted events)) ?_ ?_ h
  · intro _
    refine ⟨fun id s stored => ?_, by simp [fresh], by simp [fresh]⟩
    cases (empty id).symm.trans stored
  · intro events R e T hR ih hT new
    have all := ih fun s hs => new s (List.mem_append_left _ hs)
    have requests := request_mem hR
    have fits := fits keeps hR
    refine (happens_of_step hT).allRecords keeps all (fun s h => h.congr [e] rfl rfl rfl)
      (fun s date h _ => h.congr [e] rfl rfl rfl)
      (fun _ s o _ date h _ => h.congr [e] (by simp) ?_ (by simp))
      (fun s date err h _ => h.congr [e] rfl rfl rfl) (fun t id s date code h mem examines => ?_)
      fun s hs => ?_
    · exact (Submission.SameOrigin.of_concluded date o ⟨rfl, rfl, rfl, rfl⟩).handle
    · -- The code that comes in is the one that was asked for.
      obtain ⟨rfl, request⟩ : s.id = id ∧ t.request = .rescore id code := by
        simpa [Task.Fits, examines, Call.core] using fits t mem
      cases code with
      | none => exact h.congr [e] rfl rfl rfl
      | some text =>
        refine ⟨h.handle, fun none_ => List.mem_append_left _ ?_⟩
        have none_ : text = "" := none_
        have asked := requests t mem
        rwa [request, none_] at asked
    · have brought : .request (.submit s) ∈ events ++ [e] := by simp [hs]
      obtain ⟨_, _, _, _, _, created⟩ := new s brought
      obtain ⟨short, full⟩ := Submission.create_eq_ok created
      exact ⟨short, fun none_ => absurd none_ full⟩

/-- Of records that were created and submitted, all that is stored has a handle as it was checked,
and code, unless a rescore of the record asked for none. -/
theorem stored_admitted (keeps : env.store.Keeps find) (empty : ∀ id, find store id = none)
    (new : ∀ s, .request (.submit s) ∈ events →
      ∃ id now slug code handle, Submission.create id now slug code handle = .ok s)
    (h : (fresh service store clock).run env events = some S) {id : Uuid} {s : Submission}
    (stored : find S.worker.store id = some s) :
    (∀ handle, s.handle = some handle → handle.length ≤ 64) ∧
      (s.code = "" → .request (.rescore id (some "")) ∈ events) := by
  obtain ⟨handle, code⟩ := (admitted keeps empty new h).stored id s stored
  rw [keeps.named _ _ _ stored] at code
  exact ⟨handle, code⟩

def admissionEnv : WorkerEnv Unit CountedStore :=
  .ofOutcome (fun _ => none) (fun n => if n = 5 then some (.fails (.unreachable "down")) else none)
    fun _ _ => .broke none

def admittedRecord : Submission :=
  .fresh ⟨1⟩ (admissionEnv.date 0) "sqli_001" "one" (some (String.ofList (List.replicate 64 'h')))

def admissionEvents : List Event :=
  Request.start.events 0 1 ++ (Request.submit admittedRecord).events 1 3 ++
    List.replicate 4 (.consumer 0) ++ .wait 5 :: List.replicate 3 (.consumer 0) ++
    (Request.rescore ⟨1⟩ (some "two")).events 2 5 ++ List.replicate 3 (.consumer 0) ++
    .wait 5 :: List.replicate 3 (.consumer 0)

theorem stored_admitted_replaced :
    (∀ id, CountedStore.find? {} id = none) ∧
      (∀ s, .request (.submit s) ∈ admissionEvents →
        ∃ id now slug code handle, Submission.create id now slug code handle = .ok s) ∧
      ∃ S s, (fresh () {} 0).run admissionEnv admissionEvents = some S ∧
        S.worker.store.find? ⟨1⟩ = some s ∧ s.status = .error ∧ s.code = "two" ∧
        (∀ handle, s.handle = some handle → handle.length ≤ 64) ∧
        (s.code = "" → .request (.rescore ⟨1⟩ (some "")) ∈ admissionEvents) := by
  have empty : ∀ id, CountedStore.find? {} id = none := fun _ => rfl
  have created : Submission.create ⟨1⟩ (admissionEnv.date 0) "sqli_001" "one"
      (some (String.ofList (List.replicate 64 'h'))) = .ok admittedRecord := by decide +kernel
  have new : ∀ s, .request (.submit s) ∈ admissionEvents →
      ∃ id now slug code handle, Submission.create id now slug code handle = .ok s := by
    intro s hs
    obtain rfl : s = admittedRecord := by simpa [admissionEvents, Request.events] using hs
    exact ⟨_, _, _, _, _, created⟩
  have goes : ((fresh () {} 0).run admissionEnv admissionEvents).any (fun S =>
      (S.worker.store.find? ⟨1⟩).any fun s => s.status == .error && s.code == "two") = true := by
    decide +kernel
  obtain ⟨S, hS, goes⟩ := (Option.any_eq_true _ _).mp goes
  obtain ⟨s, stored, ended⟩ := (Option.any_eq_true _ _).mp goes
  obtain ⟨status, code⟩ : s.status = .error ∧ s.code = "two" := by simpa using ended
  exact ⟨empty, new, S, s, hS, stored, status, code,
    stored_admitted (WorkerEnv.ofOutcome_keeps _ _ _) empty new hS stored⟩

/-- No creation takes the empty text as code, but a rescore of a created record does. -/
theorem rescore_empties_code :
    (∀ id now slug handle, Submission.create id now slug "" handle = .error .emptyCode) ∧
      (∀ id, CountedStore.find? {} id = none) ∧
      ∃ s S r, Submission.create ⟨1⟩ (admissionEnv.date 0) "sqli_001" "one" none = .ok s ∧
        (fresh () {} 0).run admissionEnv
          ((Request.submit s).events 0 3 ++ (Request.rescore ⟨1⟩ (some "")).events 1 5) = some S ∧
        S.tasks[1]? = some ⟨.rescore ⟨1⟩ (some ""), .over .done⟩ ∧
        S.worker.store.find? ⟨1⟩ = some r ∧ r.code = "" :=
  ⟨fun _ _ _ _ => rfl, fun _ => rfl, _, _, _, rfl, rfl, rfl, rfl, rfl⟩

end System

end FixGrader
