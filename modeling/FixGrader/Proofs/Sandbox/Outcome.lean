import FixGrader.Proofs.Sandbox.Check
import FixGrader.Proofs.Settings.Validity

namespace FixGrader

def SandboxKind.patterns : SandboxKind → List String
  | host => DenyList.hostPatterns
  | container => DenyList.containerPatterns

namespace Sandbox

theorem ofSettings_of_driver {s : SandboxSettings} {kind : SandboxKind} {deny : DenyList}
    (driver : s.driver = kind.driver) (compiles : DenyList.ofSettings s kind.patterns = .ok deny) :
    ofSettings s = .ok (some ⟨kind, s, deny⟩) := by
  cases kind with
  | host | container =>
    rw [ofSettings, driver]
    exact congrArg (Except.map _) compiles

def IsRuntimeFault : ExitStatus → Prop
  | .exited code => code = 125 ∨ code = 126 ∨ code = 127
  | .timedOut => False
  | .signaled _ => True

theorem hostVerdict_ne_unavailable {seconds : UInt64} {o : RunOutcome} (m : String) :
    hostVerdict seconds o ≠ .unavailable m := by
  unfold hostVerdict
  split <;> simp [compilationFailed, timedOut]

theorem containerVerdict_unavailable_iff {seconds : UInt64} {o : RunOutcome} :
    (∃ m, containerVerdict seconds o = .unavailable m) ↔ IsRuntimeFault o.status := by
  unfold containerVerdict
  split
  next exited => simp [exited, IsRuntimeFault]
  next exited =>
    rw [exited, IsRuntimeFault]
    split <;> simp_all [compilationFailed, runtimeFailureCodes]
  next late => simp [late, IsRuntimeFault, timedOut]
  next killed => simp [killed, IsRuntimeFault]

theorem verdict_unavailable_iff {b : Sandbox} {o : RunOutcome} :
    (∃ m, b.verdict o = .unavailable m) ↔ b.kind = .container ∧ IsRuntimeFault o.status := by
  unfold verdict
  split
  next kind => simp [kind, hostVerdict_ne_unavailable]
  next kind => simp [kind, containerVerdict_unavailable_iff]

variable (h : Host) (b : Sandbox) (code : String) (t : Trace)

/-- Nothing keeps the check from being launched. -/
structure Ready (located : String) : Prop where
  allowed : b.Allows code
  found : h.locate b.program = some located
  staged : h.staging t.dirs = none

/-- The sandbox could not do its part. -/
inductive Unchecked : Prop
  | notFound (allowed : b.Allows code) (missing : h.locate b.program = none)
  | notLaunched {located : String} {f : Failure} (ready : Ready h b code t located)
      (fails : b.reply h code t located = .error f)
  | faulty {located : String} {o : RunOutcome} (ready : Ready h b code t located)
      (kind : b.kind = .container) (ends : b.reply h code t located = .ok o)
      (fault : IsRuntimeFault o.status)

/-- What a check that answers `r` and launches `commands` comes to. -/
structure Settles (r : Except Failure SandboxOutcome) (commands : List Command) : Prop where
  denied : ¬b.Allows code → r = .ok (.rejected deniedMessage) ∧ commands = []
  missing : b.Allows code → h.locate b.program = none →
    (∃ m, r = .ok (.unavailable m)) ∧ commands = []
  unstaged : b.CannotStage h code t → commands = []
  failed : ∀ located f, Ready h b code t located → b.reply h code t located = .error f →
    commands = [b.checkCommand h code t located]
  ended : ∀ located o, Ready h b code t located → b.reply h code t located = .ok o →
    commands = b.checkCommand h code t located ::
      if b.kind = .container ∧ o.status = .timedOut then
        [removalCommand located (containerName h t)] else []
  isError_iff : (∃ f, r = .error f) ↔ b.CannotStage h code t
  isPass_iff : IsPass r ↔ b.Clears h code t
  isUnavailable_iff : (∃ m, r = .ok (.unavailable m)) ↔ Unchecked h b code t
  isRejected_iff : (∃ m, r = .ok (.rejected m)) ↔
    ¬b.CannotStage h code t ∧ ¬b.Clears h code t ∧ ¬Unchecked h b code t

variable {h b code t} {r : Except Failure SandboxOutcome} {commands : List Command}

theorem exists_occurs (denied : ¬b.Allows code) :
    ∃ p ∈ b.deny, p.pattern.occursIn code = true := by simpa [Allows] using denied

theorem notFound_unavailable : ∃ m, b.notFound = .unavailable m := by
  unfold notFound
  split <;> exact ⟨_, rfl⟩

theorem notLaunched_unavailable (f : Failure) : ∃ m, b.notLaunched f = .unavailable m := by
  unfold notLaunched
  split <;> exact ⟨_, rfl⟩

namespace Checks

theorem with_reply {later : List Launch → Command → Limits → Reply}
    (same : later t.launches = h.reply t.launches) (checked : Checks h b code t r commands) :
    Checks { h with reply := later } b code t r commands := by
  have first (located) : b.reply { h with reply := later } code t located =
      b.reply h code t located :=
    congrArg (fun reply => (reply (b.checkCommand h code t located) b.limits).result) same
  cases checked with
  | denied mem occurs => exact .denied mem occurs
  | notFound allowed missing => exact .notFound allowed missing
  | unstaged allowed found faulty => exact .unstaged allowed found faulty
  | notLaunched allowed found staged fails =>
    exact .notLaunched allowed found staged ((first _).trans fails)
  | ended allowed found staged ends => exact .ended allowed found staged ((first _).trans ends)

theorem isUnavailable_iff (checked : Checks h b code t r commands) :
    (∃ m, r = .ok (.unavailable m)) ↔ Unchecked h b code t := by
  constructor
  · rintro ⟨m, answer⟩
    cases checked with
    | denied | unstaged => cases answer
    | notFound allowed missing => exact .notFound allowed missing
    | notLaunched allowed found staged fails => exact .notLaunched ⟨allowed, found, staged⟩ fails
    | ended allowed found staged ends =>
      obtain ⟨kind, fault⟩ := verdict_unavailable_iff.mp ⟨m, Except.ok.inj answer⟩
      exact .faulty ⟨allowed, found, staged⟩ kind ends fault
  · rintro (⟨allowed, missing⟩ | ⟨ready, fails⟩ | ⟨ready, kind, ends, fault⟩)
    · obtain ⟨rfl, _⟩ := checked.unique (.notFound allowed missing)
      exact notFound_unavailable.imp fun m => congrArg Except.ok
    · obtain ⟨rfl, _⟩ := checked.unique
        (.notLaunched ready.allowed ready.found ready.staged fails)
      exact (notLaunched_unavailable _).imp fun m => congrArg Except.ok
    · obtain ⟨rfl, _⟩ := checked.unique (.ended ready.allowed ready.found ready.staged ends)
      exact (verdict_unavailable_iff.mpr ⟨kind, fault⟩).imp fun m => congrArg Except.ok

theorem isRejected_iff (checked : Checks h b code t r commands) :
    (∃ m, r = .ok (.rejected m)) ↔
      ¬b.CannotStage h code t ∧ ¬b.Clears h code t ∧ ¬Unchecked h b code t := by
  rw [← checked.isError_iff, ← checked.isPass_iff, ← checked.isUnavailable_iff]
  constructor
  · rintro ⟨m, rfl⟩
    simp [IsPass, SandboxOutcome.isPassed]
  · rintro ⟨noError, noPass, available⟩
    cases r with
    | error f => exact absurd ⟨f, rfl⟩ noError
    | ok o =>
      cases o with
      | passed m => exact absurd ⟨_, rfl, rfl⟩ noPass
      | rejected m => exact ⟨m, rfl⟩
      | unavailable m => exact absurd ⟨m, rfl⟩ available

theorem settles (checked : Checks h b code t r commands) : Settles h b code t r commands where
  denied denied := by
    obtain ⟨_, mem, occurs⟩ := exists_occurs denied
    exact checked.unique (.denied mem occurs)
  missing allowed missing :=
    ⟨checked.isUnavailable_iff.mpr (.notFound allowed missing),
      (checked.unique (.notFound allowed missing)).2⟩
  unstaged := by
    rintro ⟨allowed, ⟨_, found⟩, _, faulty⟩
    exact (checked.unique (.unstaged allowed found faulty)).2
  failed _ _ ready fails :=
    (checked.unique (.notLaunched ready.allowed ready.found ready.staged fails)).2
  ended located o ready ends := by
    rw [← cleanup_eq]
    exact (checked.unique (.ended ready.allowed ready.found ready.staged ends)).2
  isError_iff := checked.isError_iff
  isPass_iff := checked.isPass_iff
  isUnavailable_iff := checked.isUnavailable_iff
  isRejected_iff := checked.isRejected_iff

end Checks

/-- In both sandboxes a check answers and launches what `Settles` says, and all that the host does
with launches behind the first one makes no difference. -/
theorem run_settles {s : SandboxSettings} {kind : SandboxKind} {deny : DenyList}
    (driver : s.driver = kind.driver) (compiles : DenyList.ofSettings s kind.patterns = .ok deny)
    (h : Host) (code : String) (t : Trace) :
    let b : Sandbox := ⟨kind, s, deny⟩
    ofSettings s = .ok (some b) ∧
    ∃ commands,
      ((b.run h code).run t).2.launches.map Launch.command =
        t.launches.map Launch.command ++ commands ∧
      Settles h b code t ((b.run h code).run t).1 commands ∧
      ∀ later, later t.launches = h.reply t.launches →
        ((b.run { h with reply := later } code).run t).1 = ((b.run h code).run t).1 ∧
        ((b.run { h with reply := later } code).run t).2.launches.map Launch.command =
          ((b.run h code).run t).2.launches.map Launch.command := by
  intro b
  obtain ⟨commands, checked, launched⟩ := checks_run h b code t
  refine ⟨ofSettings_of_driver driver compiles, commands, launched, checked.settles, ?_⟩
  intro later same
  obtain ⟨others, again, relaunched⟩ := checks_run { h with reply := later } b code t
  obtain ⟨answer, rfl⟩ := again.unique (checked.with_reply same)
  exact ⟨answer, relaunched.trans launched.symm⟩

def stuckHost : Host where
  locate name := if name = "docker" then some "/usr/bin/docker" else none
  hasPath _ := true
  tempDir := "/tmp"
  suffix _ := "000000"
  staging _ := none
  uuid _ := "0"
  reply launches _ _ :=
    { result := if launches.isEmpty then .ok { status := .timedOut } else .error ["gone"] }

theorem print_allowed : (DenyList.compile DenyList.containerPatterns).toOption.all
    (fun deny => deny.all fun p => !p.pattern.occursIn "print(1)") = true := by decide +kernel

theorem run_settles_stuck :
    let s : SandboxSettings := { driver := .container }
    ∃ b, ofSettings s = .ok (some b) ∧
      (∃ m, ((b.run stuckHost "print(1)").run {}).1 = .ok (.rejected m)) ∧
      ((b.run stuckHost "print(1)").run {}).2.launches.map Launch.command =
        [containerCommand s "/usr/bin/docker" "scoring-0" "/tmp/sandbox-000000" "submission.py",
          removalCommand "/usr/bin/docker" "scoring-0"] := by
  intro s
  obtain ⟨deny, read⟩ := exists_of_isOk DenyList.isOk_containerPatterns
  have driver : s.driver = SandboxKind.container.driver := rfl
  have compiles : DenyList.ofSettings s SandboxKind.container.patterns = .ok deny := read
  obtain ⟨made, commands, launched, settles, _⟩ :=
    run_settles driver compiles stuckHost "print(1)" {}
  have allowed : Allows ⟨.container, s, deny⟩ "print(1)" := by
    have all := print_allowed
    rw [read] at all
    exact fun p mem => by simpa using List.all_eq_true.mp all p mem
  have ready : Ready stuckHost ⟨.container, s, deny⟩ "print(1)" {} "/usr/bin/docker" :=
    ⟨allowed, rfl, rfl⟩
  have ends : reply stuckHost ⟨.container, s, deny⟩ "print(1)" {} "/usr/bin/docker" =
    .ok { status := .timedOut } := rfl
  refine ⟨_, made, settles.isRejected_iff.mpr ⟨?_, ?_, ?_⟩, ?_⟩
  · rintro ⟨_, _, _, ⟨⟩⟩
  · rintro ⟨_, _, _, _, _, ⟨⟩, ⟨⟩⟩
  · rintro (⟨_, ⟨⟩⟩ | ⟨_, ⟨⟩⟩ | ⟨_, _, ⟨⟩, ⟨⟩⟩)
  · rw [launched, settles.ended _ _ ready ends]
    rfl

end Sandbox

end FixGrader
