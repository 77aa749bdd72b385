import FixGrader.Proofs.Scoring.Confinement

namespace FixGrader

def textAt (copies : List Staged) (path : String) : Option String :=
  (copies.find? fun s => s.file == path).map Staged.code

theorem textAt_cons (s : Staged) (copies : List Staged) :
    textAt (s :: copies) s.file = some s.code := by
  simp [textAt]

/-- The command reads the copy, by its path or through a container. -/
inductive Reads (s : Staged) (c : Command) : Prop
  | file (mem : s.file ∈ c.args)
  | mounted (mount : ["-v", s.dir ++ ":/sandbox:ro"] <:+: c.args)
      (mem : "/sandbox/submission.py" ∈ c.args)

theorem Adapter.reads_command (a : Adapter) (h : Host) (located : String) (s : Staged) :
    Reads s (a.command h located s) := by
  refine .file ?_
  cases a <;> simp [command, Analysis.semgrepCommand, Analysis.banditCommand]

theorem Sandbox.reads_command (b : Sandbox) (located name : String) (s : Staged) :
    Reads s (b.command located name s) := by
  obtain ⟨kind, settings, deny⟩ := b
  cases kind with
  | host =>
    refine .file ?_
    simp [command, hostCommand]
  | container =>
    obtain ⟨options, inside, args, _, _, _, _, _, mount⟩ :=
      isolates_containerCommand settings located name s.dir Staged.fileName
    have file : s!"{mountPoint}/{Staged.fileName}" = "/sandbox/submission.py" := by decide
    refine .mounted ?_ ?_
    · rw [command, args]
      exact mount.trans (List.prefix_append options _).isInfix
    · rw [← file]
      simp [command, containerCommand]

theorem Execution.Fits.textAt_copy {e : Execution} {h : Host} {code : String} {base : List Staged}
    (fits : e.Fits h code base) : textAt e.launch.staged e.copy.file = some code := by
  obtain ⟨n, copy⟩ := fits.copy
  rw [fits.staged, textAt_cons, copy]

theorem Purpose.tag_eq_of_dirName_eq {p p' : Purpose} {h : Host} {n n' : Nat}
    (same : h.dirName p.tag n = h.dirName p'.tag n') : p.tag = p'.tag := by
  have path (p : Purpose) (n : Nat) : (h.dirName p.tag n).toList =
      (h.tempDir ++ "/").toList ++ (p.tag.toList ++ (h.suffix n).toList) := by
    have name : h.dirName p.tag n = h.tempDir ++ "/" ++ p.tag ++ h.suffix n := rfl
    rw [name, String.toList_append, String.toList_append, List.append_assoc]
  have behind : p.tag.toList ++ (h.suffix n).toList = p'.tag.toList ++ (h.suffix n').toList := by
    refine List.append_cancel_left ((path p n).symm.trans ?_)
    rw [same, path p' n']
  have tags (p : Purpose) : p.tag = "semgrep-" ∨ p.tag = "bandit-" ∨ p.tag = "sandbox-" := by
    rcases p with (_ | _) | _ | _ <;> simp [tag, Adapter.tag]
  -- The tags differ within their first two characters.
  rcases tags p with tag | tag | tag <;> rcases tags p' with tag' | tag' | tag' <;>
    rw [tag, tag'] at behind ⊢ <;> simp at behind

namespace Follows

variable {h : Host} {s : AnalyzerSettings} {sandbox : Option Sandbox} {code : String} {t u : Trace}
  {l : Launching} (follows : Follows h s sandbox code t u l)

include follows

theorem fits_of_mem {e : Execution} (mem : e ∈ l.scans ++ l.checks) : e.Fits h code t.staged := by
  refine follows.pass.fits e ?_
  rw [Launching.all, ← List.append_assoc]
  exact List.mem_append_left l.removals mem

theorem reads {e : Execution} (mem : e ∈ l.scans ++ l.checks) : Reads e.copy e.launch.command := by
  have fits := follows.fits_of_mem mem
  rcases List.mem_append.mp mem with scanned | checked
  · obtain ⟨a, _, purpose⟩ := follows.scan_of_mem scanned
    obtain ⟨located, command⟩ := fits.command_scan purpose
    exact command ▸ a.reads_command h located e.copy
  · obtain ⟨b, _, purpose⟩ := follows.check_of_mem checked
    obtain ⟨located, command⟩ := fits.command_check purpose
    exact command ▸ b.reads_command located e.container e.copy

theorem tags_nodup : ((l.scans ++ l.checks).map fun e => e.purpose.tag).Nodup := by
  have all := (follows.scans_sublist.append follows.checks_sublist).map Purpose.tag
  have apart : ((s.adapters.map Purpose.scan ++ sandbox.toList.map Purpose.check).map
      Purpose.tag).Nodup := by
    unfold AnalyzerSettings.adapters
    split <;> split <;> cases sandbox <;> simp [Purpose.tag, Adapter.tag]
  rw [← List.map_append, List.map_map] at all
  exact all.nodup apart

theorem dirs_nodup : ((l.scans ++ l.checks).map fun e => e.copy.dir).Nodup := by
  -- A directory for two launches would have the tag of both, and no tag is used twice.
  have tags := follows.tags_nodup
  rw [List.Nodup, List.pairwise_map] at tags ⊢
  refine tags.imp_of_mem fun mem mem' different same => different ?_
  obtain ⟨n, copy⟩ := (follows.fits_of_mem mem).copy
  obtain ⟨n', copy'⟩ := (follows.fits_of_mem mem').copy
  rw [copy, copy'] at same
  exact Purpose.tag_eq_of_dirName_eq same

theorem removes {r : Execution} (mem : r ∈ l.removals) :
    ∃ e ∈ l.checks, r.copy = e.copy ∧ r.launch.staged = e.copy :: t.staged ∧
      ∃ located, r.launch.command = Sandbox.removalCommand located e.container := by
  have fits : r.Fits h code t.staged :=
    follows.pass.fits r (List.mem_append_right _ (List.mem_append_right _ mem))
  obtain ⟨located, _, job⟩ := fits.job
  obtain ⟨e, checked, copy, name, b, purpose⟩ := follows.removals.exists_check mem
  rw [purpose, Purpose.fill_removal, name] at job
  exact ⟨e, checked, copy, copy ▸ fits.staged, located, congrArg Job.command job⟩

end Follows

namespace ScoringService

/-- After a pass all directories are as before. Each scan and each check has read a copy that held
the snippet, in a directory of its own, and a removal has needed no other one. -/
theorem leaves_nothing {s : Settings} {sandbox : Option Sandbox}
    (compiles : Sandbox.ofSettings s.sandbox = .ok sandbox) (h : Host) (slug code : String)
    (t : Trace) :
    let service := onHost h s.analyzers sandbox s.scoring
    let u := ((service.score slug code).run t).2
    ofSettings h s = .ok service ∧ u.staged = t.staged ∧ u.unwritten = t.unwritten ∧
    ∃ l : Launching, Follows h s.analyzers sandbox code t u l ∧
      u.launches = t.launches ++ l.all.map Execution.launch ∧
      (∀ e ∈ l.scans ++ l.checks, Reads e.copy e.launch.command ∧
        textAt e.launch.staged e.copy.file = some code) ∧
      ((l.scans ++ l.checks).map fun e => e.copy.dir).Nodup ∧
      ∀ r ∈ l.removals, ∃ e ∈ l.checks, r.copy = e.copy ∧
        r.launch.staged = e.copy :: t.staged ∧
        ∃ located, r.launch.command = Sandbox.removalCommand located e.container := by
  intro service u
  obtain ⟨l, follows⟩ := follows_score h s.analyzers sandbox s.scoring slug code t
  refine ⟨ofSettings_of_sandbox compiles h, follows.pass.staged, follows.pass.unwritten, l, follows,
    follows.pass.launches, fun e mem => ⟨follows.reads mem, ?_⟩, follows.dirs_nodup,
    fun r mem => follows.removes mem⟩
  exact (follows.fits_of_mem mem).textAt_copy

/-- A host that cannot write to the first directory, and on which each program runs out of time. -/
def slowHost : Host where
  locate name := some ("/usr/bin/" ++ name)
  hasPath _ := true
  tempDir := "/tmp"
  suffix n := toString n
  staging n := if n = 0 then some (.writing "submission.py" ["disk full"]) else none
  uuid n := toString n
  reply _ _ _ := { result := .ok { status := .timedOut } }

theorem leaves_nothing_slow :
    let s : Settings := { sandbox := { driver := .container } }
    ∃ b, Sandbox.ofSettings s.sandbox = .ok (some b) ∧
      let service := onHost slowHost s.analyzers (some b) s.scoring
      let u := ((service.score "sqli_001" "print(1)").run {}).2
      u.staged = [] ∧ u.unwritten = [] ∧
      ∃ l : Launching, u.launches = l.all.map Execution.launch ∧
        l.scans.map Execution.purpose = [.scan (.bandit {})] ∧
        l.checks.map Execution.purpose = [.check b] ∧ l.removals.length = 1 ∧
        ∀ e ∈ l.scans ++ l.checks, textAt e.launch.staged e.copy.file = some "print(1)" := by
  intro s
  obtain ⟨deny, read⟩ := exists_of_isOk DenyList.isOk_containerPatterns
  let b : Sandbox := ⟨.container, s.sandbox, deny⟩
  have driver : s.sandbox.driver = SandboxKind.container.driver := rfl
  have made : Sandbox.ofSettings s.sandbox = .ok (some b) :=
    Sandbox.ofSettings_of_driver driver read
  have allows : b.Allows "print(1)" := by
    have all := Sandbox.print_allowed
    rw [read] at all
    exact fun p mem => by simpa using List.all_eq_true.mp all p mem
  obtain ⟨_, staged, unwritten, l, follows, launches, held, _, _⟩ :=
    leaves_nothing made slowHost "sqli_001" "print(1)" {}
  have due : (Purpose.check b).isDue slowHost "print(1)" = true :=
    Sandbox.isDue_iff.mpr ⟨Sandbox.allows_iff.mp allows, rfl⟩
  have scans : l.scans.map Execution.purpose = [.scan (.bandit {})] := follows.scans
  have checks : l.checks.map Execution.purpose = [.check b] := by
    rw [follows.checks, Host.dueChecks, Option.toList_some, List.map_singleton,
      List.filter_singleton, due]
    rfl
  refine ⟨b, made, staged, unwritten, l, launches, scans, checks, ?_, fun e mem => (held e mem).2⟩
  obtain ⟨e, one, purpose⟩ := List.map_eq_singleton_iff.mp checks
  have late : e.IsLate slowHost ([] ++ l.scans.map Execution.launch) b :=
    ⟨purpose, rfl, _, rfl, rfl⟩
  have removals := follows.removals
  rw [one] at removals
  generalize l.removals = removed at removals
  cases removals with
  | nothing quiet => exact absurd late (quiet e (List.mem_singleton_self e) b)
  | container => rfl

end ScoringService

end FixGrader
