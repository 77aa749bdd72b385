import FixGrader.Proofs.Worker.Turn

namespace FixGrader

namespace Worker

variable {σ τ : Type} {env : WorkerEnv σ τ} {w w' : Worker σ τ} {i : Nat} {c c' : Call}

/-- No two consumers have the queue. -/
def OneHasQueue (w : Worker σ τ) : Prop :=
  ∀ (i j : Nat) (a b : Stage), w.consumers[i]? = some a → w.consumers[j]? = some b →
    a.hasQueue = true → b.hasQueue = true → i = j

theorem hasQueue_of_saving {stage : Stage} {s : Submission} (h : stage.saving? = some s) :
    stage.hasQueue = true := by
  cases stage <;> first | rfl | cases h

/-- A step changes the stage of one consumer. It comes to the queue only if nobody has it. -/
theorem Turn.consumers (h : Turn env w i w') :
    ∃ old new, w.consumers[i]? = some old ∧ w'.consumers = w.consumers.set i new ∧
      (new.hasQueue = true →
        old.hasQueue = true ∨ ∀ stage ∈ w.consumers, stage.hasQueue = false) := by
  cases h with
  | letIn at_ alone => exact ⟨_, _, at_, rfl, fun _ => .inr alone⟩
  | halt at_ | begin at_ | loadBreaks at_ | loadFails at_ | missing at_ | skip at_ | take at_
  | markFails at_ | pass at_ | conclude at_ | storeFails at_ | retryFails at_ | giveUpFails at_
  | acknowledge at_ => exact ⟨_, _, at_, rfl, fun _ => .inl rfl⟩
  | saveBreaks at_ saving | stored at_ saving =>
    exact ⟨_, _, at_, rfl, fun _ => .inl (hasQueue_of_saving saving)⟩

theorem CallTurn.consumers (h : CallTurn env w c w' c') :
    w'.consumers = w.consumers ∨ w'.consumers = w.consumers ++ [.waiting] := by
  cases h with
  | start =>
    unfold Worker.start
    split
    · exact .inl rfl
    · exact .inr rfl
  | _ => exact .inl rfl

theorem Turn.oneHasQueue (h : Turn env w i w') (one : w.OneHasQueue) : w'.OneHasQueue := by
  obtain ⟨old, new, at_, set, free⟩ := h.consumers
  -- A consumer that has the queue after the step has it before, or it is the one let to it.
  have before : ∀ (j : Nat) (a : Stage), w'.consumers[j]? = some a → a.hasQueue = true →
      (∃ b, w.consumers[j]? = some b ∧ b.hasQueue = true) ∨
        j = i ∧ ∀ stage ∈ w.consumers, stage.hasQueue = false := by
    intro j a hj ha
    rw [set] at hj
    obtain ⟨rfl, rfl⟩ | ⟨_, hj⟩ := getElem?_set_cases hj
    · exact (free ha).imp (fun ho => ⟨old, at_, ho⟩) fun hn => ⟨rfl, hn⟩
    · exact .inl ⟨a, hj, ha⟩
  have absurd_ : ∀ (j : Nat) (b : Stage), w.consumers[j]? = some b → b.hasQueue = true →
      ¬∀ stage ∈ w.consumers, stage.hasQueue = false := by
    intro j b hj hb hn
    simp [hn b (List.mem_of_getElem? hj)] at hb
  intro j k a b hj hk ha hb
  obtain ⟨a', hj', ha'⟩ | ⟨rfl, hn⟩ := before j a hj ha
  · obtain ⟨b', hk', hb'⟩ | ⟨rfl, hn⟩ := before k b hk hb
    · exact one j k a' b' hj' hk' ha' hb'
    · exact absurd hn (absurd_ j a' hj' ha')
  · obtain ⟨b', hk', hb'⟩ | ⟨rfl, _⟩ := before k b hk hb
    · exact absurd hn (absurd_ k b' hk' hb')
    · rfl

theorem CallTurn.oneHasQueue (h : CallTurn env w c w' c') (one : w.OneHasQueue) :
    w'.OneHasQueue := by
  have before : ∀ (j : Nat) (a : Stage), w'.consumers[j]? = some a → a.hasQueue = true →
      w.consumers[j]? = some a := by
    intro j a hj ha
    rcases h.consumers with he | he <;> rw [he] at hj
    · exact hj
    · obtain hj | ⟨_, rfl⟩ := getElem?_concat_cases hj
      · exact hj
      · cases ha
  intro j k a b hj hk ha hb
  exact one j k a b (before j a hj ha) (before k b hk hb) ha hb

end Worker

namespace System

variable {σ τ : Type} {env : WorkerEnv σ τ} {S T : System σ τ} {e : Event}

theorem Happens.oneHasQueue (h : Happens env S e T) (one : S.worker.OneHasQueue) :
    T.worker.OneHasQueue := by
  cases h with
  | request | giveUp | wait | shutdown => exact one
  | call _ turn => exact turn.oneHasQueue one
  | consumer turn => exact turn.oneHasQueue one

/-- A consumer's stage is as before, or it is new, or the consumer has done a step. -/
theorem Happens.stage_cases (h : Happens env S e T) {i : Nat} {stage : Stage}
    (at_ : T.worker.consumers[i]? = some stage) :
    e ≠ .consumer i ∧ S.worker.consumers[i]? = some stage ∨ stage = .waiting ∨
      e = .consumer i ∧ S.worker.Turn env i T.worker := by
  cases h with
  | request | giveUp | wait | shutdown => exact .inl ⟨nofun, at_⟩
  | call _ turn =>
    rcases turn.consumers with hc | hc <;> simp only [setCall, hc] at at_
    · exact .inl ⟨nofun, at_⟩
    · exact (getElem?_concat_cases at_).imp (⟨nofun, ·⟩) fun h => .inl h.2
  | consumer turn =>
    obtain ⟨_, _, _, set, _⟩ := turn.consumers
    rw [set] at at_
    obtain ⟨rfl, _⟩ | ⟨ne, at_⟩ := getElem?_set_cases at_
    · exact .inr (.inr ⟨rfl, turn⟩)
    · exact .inl ⟨fun he => ne (Event.consumer.inj he), at_⟩

theorem Happens.keeps_stage (h : Happens env S e T) {i : Nat} {stage : Stage}
    (at_ : S.worker.consumers[i]? = some stage) (ne : e ≠ .consumer i) :
    T.worker.consumers[i]? = some stage := by
  cases h with
  | request | giveUp | wait | shutdown => exact at_
  | call _ turn =>
    rcases turn.consumers with hc | hc <;> simp only [setCall, hc]
    · exact at_
    · exact (List.getElem?_append_left (List.getElem?_eq_some_iff.mp at_).1).trans at_
  | @consumer j _ turn =>
    obtain ⟨_, _, _, set, _⟩ := turn.consumers
    have hji : j ≠ i := fun h => ne (congrArg Event.consumer h)
    exact set ▸ (List.getElem?_set_ne hji).trans at_

theorem oneHasQueue {service : σ} {store : τ} {clock : Nat} {events : List Event}
    (h : (fresh service store clock).run env events = some S) : S.worker.OneHasQueue := by
  refine run_induction (motive := fun _ S => S.worker.OneHasQueue) ?_ ?_ h
  · intro i j a b hi
    simp [fresh] at hi
  · intro _ R e T _ one hT
    exact (happens_of_step hT).oneHasQueue one

end System

end FixGrader
