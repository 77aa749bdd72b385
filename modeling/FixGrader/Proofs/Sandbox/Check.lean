import FixGrader.Proofs.Tool.Staging
import FixGrader.Sandbox.Check

namespace FixGrader

namespace Sandbox

def Allows (b : Sandbox) (code : String) : Prop := ∀ p ∈ b.deny, p.pattern.occursIn code = false

/-- What is launched to check a staged snippet. The name is that of a container. -/
def command (b : Sandbox) (located name : String) (s : Staged) : Command :=
  match b.kind with
  | .host => hostCommand located s.dir s.file
  | .container => containerCommand b.settings located name s.dir Staged.fileName

def limits (b : Sandbox) : Limits :=
  match b.kind with
  | .host => hostLimits b.settings
  | .container => { seconds := b.settings.seconds }

def cleanup (b : Sandbox) (located name : String) (o : RunOutcome) : List Command :=
  match b.kind with
  | .host => []
  | .container => if o.status = .timedOut then [removalCommand located name] else []

theorem cleanup_eq (b : Sandbox) (located name : String) (o : RunOutcome) :
    b.cleanup located name o = if b.kind = .container ∧ o.status = .timedOut then
      [removalCommand located name] else [] := by
  unfold cleanup
  split <;> simp_all

def notLaunched (b : Sandbox) (f : Failure) : SandboxOutcome :=
  match b.kind with
  | .host => .unavailable s!"Sandbox unavailable: {f.message}"
  | .container => .unavailable s!"Sandbox unavailable: container launch failed: {f.message}"

def verdict (b : Sandbox) (o : RunOutcome) : SandboxOutcome :=
  match b.kind with
  | .host => hostVerdict b.settings.seconds o
  | .container => containerVerdict b.settings.seconds o

variable (h : Host) (b : Sandbox) (code : String) (t : Trace)

def containerName : String := "scoring-" ++ h.uuid t.names

def checkCommand (located : String) : Command :=
  b.command located (containerName h t) (h.nextStaged "sandbox-" code t)

def reply (located : String) : Except Failure RunOutcome :=
  (h.reply t.launches (b.checkCommand h code t located) b.limits).result

/-- What a check from `t` on answers, and the commands that it launches. -/
inductive Checks : Except Failure SandboxOutcome → List Command → Prop
  | denied {p : DenyPattern} (mem : p ∈ b.deny) (occurs : p.pattern.occursIn code = true) :
      Checks (.ok (.rejected deniedMessage)) []
  | notFound (allowed : b.Allows code) (missing : h.locate b.program = none) :
      Checks (.ok b.notFound) []
  | unstaged {located : String} {fault : StagingFault} (allowed : b.Allows code)
      (found : h.locate b.program = some located) (faulty : h.staging t.dirs = some fault) :
      Checks (.error ("Failed to stage sandbox snippet" :: fault.failure)) []
  | notLaunched {located : String} {f : Failure} (allowed : b.Allows code)
      (found : h.locate b.program = some located) (staged : h.staging t.dirs = none)
      (fails : b.reply h code t located = .error f) :
      Checks (.ok (b.notLaunched f)) [b.checkCommand h code t located]
  | ended {located : String} {o : RunOutcome} (allowed : b.Allows code)
      (found : h.locate b.program = some located) (staged : h.staging t.dirs = none)
      (ends : b.reply h code t located = .ok o) :
      Checks (.ok (b.verdict o))
        (b.checkCommand h code t located :: b.cleanup located (containerName h t) o)

variable {h b code t}

theorem Checks.unique {r r' : Except Failure SandboxOutcome} {commands commands' : List Command}
    (first : Checks h b code t r commands) (second : Checks h b code t r' commands') :
    r = r' ∧ commands = commands' := by
  -- Two ways that differ disagree on the deny list, the program, the staging or the reply.
  cases first <;> cases second <;> grind [Allows]

theorem find?_isSome_iff {deny : DenyList} :
    (deny.find? code).isSome = true ↔ ∃ p ∈ deny, p.pattern.occursIn code = true := by
  simp [DenyList.find?]

theorem allows_iff : b.Allows code ↔ (b.deny.find? code).isSome = false := by
  simp [Allows, DenyList.find?]

theorem isStagingTag_sandbox : isStagingTag "sandbox-" = true := by
  have short : Text.Utf8.size "sandbox-" + 6 ≤ maxNameSize := by decide +kernel
  simp [isStagingTag, short]

/-- A check of a staged copy answers by what comes of its launch. -/
theorem check_of_error {located : String} {f : Failure}
    (fails : b.reply h code t located = .error f) :
    let s := h.nextStaged "sandbox-" code t
    let checked := (b.check h located s).run (t.withCopy s)
    checked.1 = b.notLaunched f ∧
      Launched [⟨b.checkCommand h code t located, b.limits⟩] (t.withCopy s) checked.2 := by
  intro s checked
  obtain ⟨kind, settings, deny⟩ := b
  cases kind with
  | host =>
    simp only [reply, checkCommand, command, limits] at fails
    simp only [checked, check, hostCheck, Work.run_bind, Work.run_launch, Trace.withCopy_launches,
      s, fails, Work.run_pure]
    exact ⟨rfl, .launch h _ _ (t.withCopy s)⟩
  | container =>
    simp only [reply, checkCommand, command, limits, containerName] at fails
    simp only [checked, check, containerCheck, Work.run_bind, Work.run_freshName, Work.run_launch,
      Trace.withCopy_launches, Trace.withCopy_names, s, fails, Work.run_pure]
    exact ⟨rfl, (Launched.freshName h (t.withCopy s)).trans (.launch h _ _ _)⟩

theorem check_of_ok {located : String} {o : RunOutcome}
    (ends : b.reply h code t located = .ok o) :
    let s := h.nextStaged "sandbox-" code t
    let checked := (b.check h located s).run (t.withCopy s)
    checked.1 = b.verdict o ∧
      Launched (⟨b.checkCommand h code t located, b.limits⟩ ::
        (b.cleanup located (containerName h t) o).map (⟨·, removalLimits⟩))
        (t.withCopy s) checked.2 := by
  intro s checked
  obtain ⟨kind, settings, deny⟩ := b
  cases kind with
  | host =>
    simp only [reply, checkCommand, command, limits] at ends
    simp only [checked, check, hostCheck, Work.run_bind, Work.run_launch, Trace.withCopy_launches,
      s, ends, Work.run_pure]
    exact ⟨rfl, .launch h _ _ (t.withCopy s)⟩
  | container =>
    simp only [reply, checkCommand, command, limits, containerName] at ends
    have named := Launched.freshName h (t.withCopy s)
    by_cases late : o.status = .timedOut
    · simp only [checked, check, containerCheck, Work.run_bind, Work.run_freshName,
        Work.run_launch, Trace.withCopy_launches, Trace.withCopy_names, s, ends, Work.run_pure,
        cleanup, late, reduceIte]
      exact ⟨rfl, (named.trans (.launch h _ _ _)).trans (.launch h _ _ _)⟩
    · simp only [checked, check, containerCheck, Work.run_bind, Work.run_freshName,
        Work.run_launch, Trace.withCopy_launches, Trace.withCopy_names, s, ends, Work.run_pure,
        cleanup, late, reduceIte]
      exact ⟨rfl, named.trans (.launch h _ _ _)⟩

theorem run_denied (hit : (b.deny.find? code).isSome = true) :
    (b.run h code).run t = (.ok (.rejected deniedMessage), t) := by
  simp only [run, hit, reduceIte, Work.run_pure]

theorem run_notFound (clean : (b.deny.find? code).isSome = false)
    (missing : h.locate b.program = none) : (b.run h code).run t = (.ok b.notFound, t) := by
  simp only [run, clean, missing, Bool.false_eq_true, reduceIte, Work.run_pure]

theorem run_unstaged (clean : (b.deny.find? code).isSome = false) {located : String}
    (found : h.locate b.program = some located) {fault : StagingFault}
    (faulty : h.staging t.dirs = some fault) :
    (b.run h code).run t =
      (.error ("Failed to stage sandbox snippet" :: fault.failure), t.numbered) := by
  have stage := Work.run_withStaged_fault isStagingTag_sandbox faulty code (b.check h located)
  simp only [run, clean, found, Bool.false_eq_true, reduceIte, Work.run_bind, stage, Work.run_pure]

theorem run_staged (clean : (b.deny.find? code).isSome = false) {located : String}
    (found : h.locate b.program = some located) (staged : h.staging t.dirs = none) :
    let s := h.nextStaged "sandbox-" code t
    let checked := (b.check h located s).run (t.withCopy s)
    (b.run h code).run t =
      (.ok checked.1, { checked.2 with staged := checked.2.staged.erase s }) := by
  have stage := Work.run_withStaged isStagingTag_sandbox staged code (b.check h located)
  simp only [run, clean, found, Bool.false_eq_true, reduceIte, Work.run_bind, stage, Work.run_pure]

theorem checks_run (h : Host) (b : Sandbox) (code : String) (t : Trace) :
    ∃ commands, Checks h b code t ((b.run h code).run t).1 commands ∧
    ((b.run h code).run t).2.launches.map Launch.command =
      t.launches.map Launch.command ++ commands := by
  cases hit : (b.deny.find? code).isSome with
  | true =>
    obtain ⟨p, mem, occurs⟩ := find?_isSome_iff.mp hit
    rw [run_denied hit]
    exact ⟨[], .denied mem occurs, (List.append_nil _).symm⟩
  | false =>
    have allowed := allows_iff.mpr hit
    cases found : h.locate b.program with
    | none =>
      rw [run_notFound hit found]
      exact ⟨[], .notFound allowed found, (List.append_nil _).symm⟩
    | some located =>
      cases staging : h.staging t.dirs with
      | some fault =>
        rw [run_unstaged hit found staging]
        exact ⟨[], .unstaged allowed found staging, (List.append_nil _).symm⟩
      | none =>
        rw [run_staged hit found staging]
        dsimp only
        cases replied : b.reply h code t located with
        | error f =>
          obtain ⟨outcome, launched⟩ := check_of_error replied
          rw [outcome, launched.commands]
          exact ⟨_, .notLaunched allowed found staging replied, rfl⟩
        | ok o =>
          obtain ⟨outcome, launched⟩ := check_of_ok replied
          rw [outcome, launched.commands, List.map_cons, Job.map_command_map]
          exact ⟨_, .ended allowed found staging replied, rfl⟩

theorem hostVerdict_isPassed_iff {seconds : UInt64} {o : RunOutcome} :
    (hostVerdict seconds o).isPassed = true ↔ o.status = .exited 0 := by
  unfold hostVerdict
  split <;> simp_all [compilationFailed, timedOut, SandboxOutcome.isPassed]

/-- An exit code of the runtime is not 0 and so is no reason to pass. -/
theorem containerVerdict_isPassed_iff {seconds : UInt64} {o : RunOutcome} :
    (containerVerdict seconds o).isPassed = true ↔ o.status = .exited 0 := by
  unfold containerVerdict
  split
  · simp_all [SandboxOutcome.isPassed]
  · split <;> simp_all [compilationFailed, SandboxOutcome.isPassed]
  all_goals simp_all [timedOut, SandboxOutcome.isPassed]

theorem verdict_isPassed_iff {o : RunOutcome} :
    (b.verdict o).isPassed = true ↔ o.status = .exited 0 := by
  unfold verdict
  split
  · exact hostVerdict_isPassed_iff
  · exact containerVerdict_isPassed_iff

theorem notFound_isPassed : b.notFound.isPassed = false := by
  unfold notFound
  split <;> rfl

theorem notLaunched_isPassed {f : Failure} : (b.notLaunched f).isPassed = false := by
  unfold notLaunched
  split <;> rfl

variable (h b code t)

/-- The snippet is staged and its check exits with 0. -/
def Clears : Prop :=
  b.Allows code ∧ ∃ located, h.locate b.program = some located ∧ h.staging t.dirs = none ∧
    ∃ o, b.reply h code t located = .ok o ∧ o.status = .exited 0

/-- All is ready for a check but the snippet cannot be staged. -/
def CannotStage : Prop :=
  b.Allows code ∧ (∃ located, h.locate b.program = some located) ∧
    ∃ fault, h.staging t.dirs = some fault

variable {h b code t}

def IsPass (r : Except Failure SandboxOutcome) : Prop := ∃ o, r = .ok o ∧ o.isPassed = true

theorem Checks.isPass_iff {r : Except Failure SandboxOutcome} {commands : List Command}
    (checked : Checks h b code t r commands) : IsPass r ↔ b.Clears h code t := by
  constructor
  · rintro ⟨o, rfl, passed⟩
    cases checked with
    | denied => cases passed
    | notFound => rw [notFound_isPassed] at passed; cases passed
    | notLaunched => rw [notLaunched_isPassed] at passed; cases passed
    | ended allowed found staged ends =>
      exact ⟨allowed, _, found, staged, _, ends, verdict_isPassed_iff.mp passed⟩
  · rintro ⟨allowed, located, found, staged, o, ends, exited⟩
    obtain ⟨rfl, _⟩ := checked.unique (.ended allowed found staged ends)
    exact ⟨_, rfl, verdict_isPassed_iff.mpr exited⟩

theorem Checks.isError_iff {r : Except Failure SandboxOutcome} {commands : List Command}
    (checked : Checks h b code t r commands) :
    (∃ f, r = .error f) ↔ b.CannotStage h code t := by
  constructor
  · rintro ⟨f, rfl⟩
    cases checked with
    | unstaged allowed found faulty => exact ⟨allowed, ⟨_, found⟩, _, faulty⟩
  · rintro ⟨allowed, ⟨located, found⟩, fault, faulty⟩
    obtain ⟨rfl, _⟩ := checked.unique (.unstaged allowed found faulty)
    exact ⟨_, rfl⟩

/-- A check passes a snippet exactly if it was launched and exited with 0, and it fails exactly if
it was kept from that by staging. -/
theorem run_isPass_iff (h : Host) (b : Sandbox) (code : String) (t : Trace) :
    IsPass ((b.run h code).run t).1 ↔ b.Clears h code t := by
  obtain ⟨commands, checked, _⟩ := checks_run h b code t
  exact checked.isPass_iff

theorem run_isError_iff (h : Host) (b : Sandbox) (code : String) (t : Trace) :
    (∃ f, ((b.run h code).run t).1 = .error f) ↔ b.CannotStage h code t := by
  obtain ⟨commands, checked, _⟩ := checks_run h b code t
  exact checked.isError_iff

end Sandbox

end FixGrader
