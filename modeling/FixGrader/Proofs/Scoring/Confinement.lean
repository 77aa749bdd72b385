import FixGrader.Proofs.Sandbox.Outcome
import FixGrader.Proofs.Scoring.Launches

namespace FixGrader

/-- The launches differ in the names of directories and containers only. -/
def Execution.Alike (e e' : Execution) : Prop :=
  ∃ T : Template, e.launch.job = T.fill e.copy.dir e.container ∧
    e'.launch.job = T.fill e'.copy.dir e'.container

/-- The launches with equal places in `new` and `new'` come to the same. -/
def AnswersAlike (h h' : Host) (past past' new new' : List Launch) : Prop :=
  ∀ before l after before' l' after', new = before ++ l :: after → new' = before' ++ l' :: after' →
    before.length = before'.length → h.answer (past ++ before) l = h'.answer (past' ++ before') l'

def Isolates (s : SandboxSettings) (dir : String) (args : List String) : Prop :=
  ∃ options inside, args = options ++ s.image :: inside ∧
    ["--network", "none"] <:+: options ∧ ["--memory", s!"{s.memoryMb}m"] <:+: options ∧
    ["--cpu-shares", s!"{s.cpuShares}"] <:+: options ∧ ["--pids-limit", "64"] <:+: options ∧
    ["--read-only"] <:+: options ∧ ["-v", dir ++ ":/sandbox:ro"] <:+: options

theorem mount_eq (dir : String) : s!"{dir}:{Sandbox.mountPoint}:ro" = dir ++ ":/sandbox:ro" := by
  have point : ":" ++ (Sandbox.mountPoint ++ ":ro") = ":/sandbox:ro" := by decide
  calc s!"{dir}:{Sandbox.mountPoint}:ro"
      = dir ++ ":" ++ Sandbox.mountPoint ++ ":ro" := rfl
    _ = dir ++ ":/sandbox:ro" := by rw [String.append_assoc, String.append_assoc, point]

theorem isolates_containerCommand (s : SandboxSettings) (runtime name dir fileName : String) :
    Isolates s dir (Sandbox.containerCommand s runtime name dir fileName).args := by
  let options := "run" :: Sandbox.containerOptions s name dir
  have part (n k : Nat) : (options.drop n).take k <:+: options :=
    (List.take_prefix k _).isInfix.trans (List.drop_suffix n options).isInfix
  refine ⟨options, _, rfl, part 4 2, part 6 2, part 8 2, part 10 2, part 12 1, ?_⟩
  rw [← mount_eq]
  exact part 13 2

theorem Purpose.template_congr {h h' : Host} (rules : h.hasPath = h'.hasPath) (located : String)
    (p : Purpose) : p.template h located = p.template h' located := by
  cases p with
  | scan a => cases a <;> simp only [template, scanTemplate, rules]
  | check | removal => rfl

namespace Execution.Fits

variable {e e' : Execution} {h h' : Host} {code code' : String} {base base' : List Staged}

theorem alike (fits : e.Fits h code base) (fits' : e'.Fits h' code' base')
    (programs : h.locate = h'.locate) (rules : h.hasPath = h'.hasPath)
    (same : e.purpose = e'.purpose) : e.Alike e' := by
  obtain ⟨located, found, job⟩ := fits.job
  obtain ⟨located', found', job'⟩ := fits'.job
  rw [← programs, ← same, found] at found'
  obtain rfl := Option.some.inj found'
  refine ⟨e.purpose.template h located, job, ?_⟩
  rw [job', ← same, Purpose.template_congr rules]

theorem command_scan (fits : e.Fits h code base) {a : Adapter} (purpose : e.purpose = .scan a) :
    ∃ located, e.launch.command = a.command h located e.copy := by
  obtain ⟨located, _, job⟩ := fits.job
  rw [purpose, Purpose.fill_scan] at job
  exact ⟨located, congrArg Job.command job⟩

theorem command_check (fits : e.Fits h code base) {b : Sandbox} (purpose : e.purpose = .check b) :
    ∃ located, e.launch.command = b.command located e.container e.copy := by
  obtain ⟨located, _, job⟩ := fits.job
  rw [purpose, Purpose.fill_check] at job
  exact ⟨located, congrArg Job.command job⟩

theorem isolates (fits : e.Fits h code base) {b : Sandbox} (purpose : e.purpose = .check b)
    (kind : b.kind = .container) : Isolates b.settings e.copy.dir e.launch.command.args := by
  obtain ⟨located, command⟩ := fits.command_check purpose
  rw [command, Sandbox.command, kind]
  exact isolates_containerCommand ..

theorem env_eq (fits : e.Fits h code base) {b : Sandbox} (purpose : e.purpose = .check b)
    (kind : b.kind = .host) :
    e.launch.command.env = [("PATH", "/usr/local/bin:/usr/bin:/bin"), ("LANG", "C.UTF-8")] := by
  obtain ⟨located, command⟩ := fits.command_check purpose
  rw [command, Sandbox.command, kind]
  rfl

end Execution.Fits

/-- A check that is late comes to the same in the other pass, so it is late there as well. -/
theorem Execution.IsLate.of_answer {e e' : Execution} {h h' : Host} {past past' : List Launch}
    {b : Sandbox} (late : e.IsLate h past b) (same : e.purpose = e'.purpose)
    (answers : h.answer past e.launch = h'.answer past' e'.launch) : e'.IsLate h' past' b where
  purpose := same.symm.trans late.purpose
  kind := late.kind
  answer := answers ▸ late.answer

theorem Removes.purposes_eq {h h' : Host} {past past' : List Launch}
    {checks checks' removals removals' : List Execution}
    (removes : Removes h past checks removals) (removes' : Removes h' past' checks' removals')
    (same : checks.map Execution.purpose = checks'.map Execution.purpose)
    (answers : ∀ e e', checks = [e] → checks' = [e'] →
      h.answer past e.launch = h'.answer past' e'.launch) :
    removals.map Execution.purpose = removals'.map Execution.purpose := by
  cases removes with
  | nothing quiet =>
    cases removes' with
    | nothing => rfl
    | @container e' _ _ late =>
      obtain ⟨e, rfl, purpose⟩ := List.map_eq_singleton_iff.mp same
      have again := late.of_answer purpose.symm (answers e e' rfl rfl).symm
      exact absurd again (quiet e List.mem_cons_self _)
  | @container e _ _ late removal =>
    cases removes' with
    | nothing quiet =>
      obtain ⟨e', rfl, purpose⟩ := List.map_eq_singleton_iff.mp same.symm
      have again := late.of_answer purpose.symm (answers e e' rfl rfl)
      exact absurd again (quiet e' List.mem_cons_self _)
    | container late' removal' =>
      have check := late.purpose.symm.trans ((List.singleton_inj.mp same).trans late'.purpose)
      obtain rfl := Purpose.check.inj check
      simp only [List.map_cons, List.map_nil, removal, removal']

theorem Host.usable_congr {α : Type} {h h' : Host} {n n' : Nat}
    (same : ∀ k, (h.staging (n + k)).isNone = (h'.staging (n' + k)).isNone) (xs : List α) :
    h.usable n xs = h'.usable n' xs := by
  induction xs generalizing n n' with
  | nil => rfl
  | cons a rest ih =>
    have later (k : Nat) : (h.staging (n + 1 + k)).isNone = (h'.staging (n' + 1 + k)).isNone := by
      simpa only [Nat.add_assoc] using same (1 + k)
    have first : (h.staging n).isNone = (h'.staging n').isNone := same 0
    simp only [usable, first, ih later]

namespace Host

variable {h h' : Host} (programs : h.locate = h'.locate)

include programs

theorem dueScans_congr (rules : h.hasPath = h'.hasPath) (s : AnalyzerSettings)
    (code code' : String) : h.dueScans s code = h'.dueScans s code' := by
  refine List.filter_congr fun p mem => ?_
  obtain ⟨a, _, rfl⟩ := List.mem_map.mp mem
  have same : a.HasRules h ↔ a.HasRules h' := by
    cases a <;> simp only [Adapter.HasRules, rules]
  rw [Bool.eq_iff_iff, Adapter.isDue_iff, Adapter.isDue_iff, programs, same]

theorem dueChecks_congr {sandbox : Option Sandbox} {code code' : String}
    (allowed : ∀ b ∈ sandbox, b.Allows code ∧ b.Allows code') :
    h.dueChecks sandbox code = h'.dueChecks sandbox code' := by
  refine List.filter_congr fun p mem => ?_
  obtain ⟨b, configured, rfl⟩ := List.mem_map.mp mem
  obtain ⟨here, there⟩ := allowed b (Option.mem_toList.mp configured)
  rw [Sandbox.allows_iff] at here there
  simp only [Purpose.isDue, Option.isSome_eq_false_iff.mp here, Option.isSome_eq_false_iff.mp there,
    programs]

end Host

theorem Sandbox.eq_of_ofSettings {s : SandboxSettings} {b : Sandbox}
    (made : ofSettings s = .ok (some b)) : b.settings = s ∧ s.driver = b.kind.driver := by
  unfold ofSettings at made
  cases driver : s.driver with
  | disabled =>
    rw [driver] at made
    cases made
  | host | container =>
    rw [driver] at made
    obtain ⟨deny, _, same⟩ := exists_of_map_eq_ok made
    obtain rfl := Option.some.inj same
    exact ⟨rfl, rfl⟩

structure Execution.Confined (e : Execution) (s : SandboxSettings) : Prop where
  container : s.driver = .container → Isolates s e.copy.dir e.launch.command.args
  host : s.driver = .host →
    e.launch.command.env = [("PATH", "/usr/local/bin:/usr/bin:/bin"), ("LANG", "C.UTF-8")]

namespace Follows

variable {h h' : Host} {s : AnalyzerSettings} {sandbox : Option Sandbox} {code code' : String}
  {t t' u u' : Trace} {l l' : Launching}

theorem confined {settings : SandboxSettings} (made : Sandbox.ofSettings settings = .ok sandbox)
    (follows : Follows h s sandbox code t u l) {e : Execution} (mem : e ∈ l.all) {b : Sandbox}
    (purpose : e.purpose = .check b) : e.Confined settings := by
  obtain rfl := follows.eq_of_check mem purpose
  obtain ⟨rfl, driver⟩ := Sandbox.eq_of_ofSettings made
  have fits := follows.pass.fits e mem
  constructor
  · intro container
    refine fits.isolates purpose ?_
    cases kind : b.kind with
    | host => simp [driver, kind, SandboxKind.driver] at container
    | container => rfl
  · intro host
    refine fits.env_eq purpose ?_
    cases kind : b.kind with
    | host => rfl
    | container => simp [driver, kind, SandboxKind.driver] at host

theorem purposes_eq (follows : Follows h s sandbox code t u l)
    (follows' : Follows h' s sandbox code' t' u' l') (programs : h.locate = h'.locate)
    (rules : h.hasPath = h'.hasPath) (allowed : ∀ b ∈ sandbox, b.Allows code ∧ b.Allows code')
    (staging : ∀ n, (h.staging (t.dirs + n)).isNone = (h'.staging (t'.dirs + n)).isNone)
    (answers : AnswersAlike h h' t.launches t'.launches (l.all.map Execution.launch)
      (l'.all.map Execution.launch)) :
    l.all.map Execution.purpose = l'.all.map Execution.purpose := by
  have due := Host.dueScans_congr programs rules s code code'
  have scans : l.scans.map Execution.purpose = l'.scans.map Execution.purpose := by
    rw [follows.scans, follows'.scans, due, Host.usable_congr staging]
  -- Both passes have staged as often when they come to the check, so what is due has one number.
  have checks : l.checks.map Execution.purpose = l'.checks.map Execution.purpose := by
    rw [follows.checks, follows'.checks, due, Host.dueChecks_congr programs allowed]
    refine Host.usable_congr (fun n => ?_) _
    simpa only [Nat.add_assoc] using staging ((h'.dueScans s code').length + n)
  have removals := follows.removals.purposes_eq follows'.removals checks fun e e' one one' =>
    answers (l.scans.map Execution.launch) e.launch (l.removals.map Execution.launch)
      (l'.scans.map Execution.launch) e'.launch (l'.removals.map Execution.launch)
      (by simp [Launching.all, one]) (by simp [Launching.all, one'])
      (by simpa using congrArg List.length scans)
  simp only [Launching.all, List.map_append, scans, checks, removals]

end Follows

namespace ScoringService

/-- In two passes with the same settings, programs and rules, each launch is like the one with its
purpose in the other pass, whatever the snippets are. With the same answers, and with snippets that
the sandbox does not deny, the passes launch the same, one by one. And each check is confined. -/
theorem launches_alike {s : Settings} {sandbox : Option Sandbox}
    (compiles : Sandbox.ofSettings s.sandbox = .ok sandbox) {h h' : Host}
    (programs : h.locate = h'.locate) (rules : h.hasPath = h'.hasPath)
    (slug slug' code code' : String) (t t' : Trace) :
    let service := onHost h s.analyzers sandbox s.scoring
    let service' := onHost h' s.analyzers sandbox s.scoring
    ofSettings h s = .ok service ∧ ofSettings h' s = .ok service' ∧
    ∃ l l' : Launching,
      Follows h s.analyzers sandbox code t ((service.score slug code).run t).2 l ∧
      Follows h' s.analyzers sandbox code' t' ((service'.score slug' code').run t').2 l' ∧
      (∀ e ∈ l.all, ∀ e' ∈ l'.all, e.purpose = e'.purpose → e.Alike e') ∧
      (∀ e ∈ l.all, ∀ b, e.purpose = .check b → e.Confined s.sandbox) ∧
      ((∀ b ∈ sandbox, b.Allows code ∧ b.Allows code') →
        (∀ n, (h.staging (t.dirs + n)).isNone = (h'.staging (t'.dirs + n)).isNone) →
        AnswersAlike h h' t.launches t'.launches (l.all.map Execution.launch)
          (l'.all.map Execution.launch) →
        l.all.map Execution.purpose = l'.all.map Execution.purpose) := by
  intro service service'
  obtain ⟨l, follows⟩ := follows_score h s.analyzers sandbox s.scoring slug code t
  obtain ⟨l', follows'⟩ := follows_score h' s.analyzers sandbox s.scoring slug' code' t'
  refine ⟨ofSettings_of_sandbox compiles h, ofSettings_of_sandbox compiles h', l, l', follows,
    follows', fun e mem e' mem' same => ?_, fun e mem b purpose => ?_,
    follows.purposes_eq follows' programs rules⟩
  · exact (follows.pass.fits e mem).alike (follows'.pass.fits e' mem') programs rules same
  · exact follows.confined compiles mem purpose

/-- A host on which all is there and all programs exit with 0. All names that it makes hold
`mark`. -/
def markedHost (mark : String) : Host where
  locate name := some ("/usr/bin/" ++ name)
  hasPath _ := true
  tempDir := "/tmp"
  suffix n := mark ++ toString n
  staging _ := none
  uuid n := mark ++ toString n
  reply _ _ _ := { result := .ok { status := .exited 0 } }

theorem prints_allowed : (DenyList.compile DenyList.containerPatterns).toOption.all
    (fun deny => deny.all fun p => !p.pattern.occursIn "print(1)" &&
      !p.pattern.occursIn "print(2)") = true := by decide +kernel

theorem launches_alike_prints :
    let s : Settings := { sandbox := { driver := .container } }
    ∃ b l l', Sandbox.ofSettings s.sandbox = .ok (some b) ∧
      Follows (markedHost "a") s.analyzers (some b) "print(1)" {} (((onHost (markedHost "a")
        s.analyzers (some b) s.scoring).score "sqli_001" "print(1)").run {}).2 l ∧
      Follows (markedHost "b") s.analyzers (some b) "print(2)" {} (((onHost (markedHost "b")
        s.analyzers (some b) s.scoring).score "xss_001" "print(2)").run {}).2 l' ∧
      l.all.map Execution.purpose = l'.all.map Execution.purpose ∧
      ∃ e ∈ l.all, ∃ e' ∈ l'.all, e.Confined s.sandbox ∧ e.Alike e' := by
  intro s
  obtain ⟨deny, read⟩ := exists_of_isOk DenyList.isOk_containerPatterns
  let b : Sandbox := ⟨.container, s.sandbox, deny⟩
  have driver : s.sandbox.driver = SandboxKind.container.driver := rfl
  have made : Sandbox.ofSettings s.sandbox = .ok (some b) :=
    Sandbox.ofSettings_of_driver driver read
  have programs : (markedHost "a").locate = (markedHost "b").locate := rfl
  have allowed : b.Allows "print(1)" ∧ b.Allows "print(2)" := by
    have all := prints_allowed
    rw [read] at all
    have clean (p : DenyPattern) (mem : p ∈ b.deny) : p.pattern.occursIn "print(1)" = false ∧
        p.pattern.occursIn "print(2)" = false := by simpa using List.all_eq_true.mp all p mem
    exact ⟨fun p mem => (clean p mem).1, fun p mem => (clean p mem).2⟩
  obtain ⟨_, _, l, l', follows, follows', alike, confined, same⟩ :=
    launches_alike made programs rfl "sqli_001" "xss_001" "print(1)" "print(2)" {} {}
  have due {mark code : String} (allows : b.Allows code) :
      (Purpose.check b).isDue (markedHost mark) code = true :=
    Sandbox.isDue_iff.mpr ⟨Sandbox.allows_iff.mp allows, rfl⟩
  obtain ⟨e, mem, purpose⟩ := follows.exists_check (due allowed.1) rfl
  obtain ⟨e', mem', purpose'⟩ := follows'.exists_check (due allowed.2) rfl
  exact ⟨b, l, l', made, follows, follows',
    same (by simpa using allowed) (fun _ => rfl) (fun _ _ _ _ _ _ _ _ _ => rfl), e, mem, e', mem',
    confined e mem b purpose, alike e mem e' mem' (purpose.trans purpose'.symm)⟩

end ScoringService

end FixGrader
