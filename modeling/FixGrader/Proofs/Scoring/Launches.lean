import FixGrader.Proofs.Analysis.Scan
import FixGrader.Proofs.Sandbox.Check
import FixGrader.Proofs.Scoring.Merge
import FixGrader.Proofs.Settings.Validity
import FixGrader.Proofs.Tool.Template

namespace FixGrader

/-- What a program is launched for in a pass. -/
inductive Purpose where
  | scan (a : Adapter)
  | check (b : Sandbox)
  | removal (b : Sandbox)

instance (h : Host) (a : Adapter) : Decidable (a.HasRules h) :=
  match a with
  | .semgrep s => inferInstanceAs (Decidable (∃ rule ∈ s.rules, h.hasPath rule = true))
  | .bandit _ => .isTrue trivial

namespace Pieces

def mount : Pieces := [.dir, .text ":", .text Sandbox.mountPoint, .text ":ro"]

theorem fill_mount (dir container : String) :
    fill dir container mount = s!"{dir}:{Sandbox.mountPoint}:ro" := by
  simp only [fill, fillOne, String.join, mount, List.map_cons, List.map_nil, List.foldl_cons,
    List.foldl_nil, String.empty_append]
  rfl

end Pieces

namespace Purpose

variable (h : Host) (located : String)

def program : Purpose → String
  | scan a => a.binary
  | check b | removal b => b.program

def tag : Purpose → String
  | scan a => a.tag
  | check _ | removal _ => "sandbox-"

open Pieces (texts file mount)

def scanTemplate : Adapter → Template
  | .semgrep s =>
    { program := located
      args := texts ("scan" :: "--disable-version-check" :: "--quiet" :: "--json" ::
        (s.rules.filter h.hasPath).flatMap (["--config", ·])) ++ [file]
      limits := { seconds := s.seconds } }
  | .bandit s =>
    { program := located
      args := texts ["-r"] ++ file :: texts ["-f", "json", "-q", "--severity-level",
        Unicode.toUpper s.severity, "--confidence-level", Unicode.toUpper s.confidence]
      limits := { seconds := s.seconds } }

def hostTemplate (s : SandboxSettings) : Template where
  program := located
  args := texts ["-I", "-S", "-c", Sandbox.checkScript] ++ [file]
  env := Sandbox.interpreterEnv
  workDir := some [.dir]
  limits := Sandbox.hostLimits s

def containerTemplate (s : SandboxSettings) : Template where
  program := located
  args := texts ["run", "--rm", "--name"] ++ [.container] ::
    texts ["--network", "none", "--memory", s!"{s.memoryMb}m", "--cpu-shares", s!"{s.cpuShares}",
      "--pids-limit", s!"{Sandbox.processLimit}", "--read-only", "-v"] ++ mount ::
    texts [s.image, "python", "-I", "-S", "-c", Sandbox.checkScript,
      s!"{Sandbox.mountPoint}/{Staged.fileName}"]
  limits := { seconds := s.seconds }

def removalTemplate : Template where
  program := located
  args := texts ["rm", "-f"] ++ [[.container]]
  limits := Sandbox.removalLimits

/-- What is launched with this purpose, by the place of the program and the rules that exist. -/
def template : Purpose → Template
  | scan a => scanTemplate h located a
  | check b =>
    match b.kind with
    | .host => hostTemplate located b.settings
    | .container => containerTemplate located b.settings
  | removal _ => removalTemplate located

/-- Nothing but staging keeps the launch from being made. A removal depends on the check. -/
def isDue (code : String) : Purpose → Bool
  | scan a => (h.locate a.binary).isSome && a.HasRules h
  | check b => (b.deny.find? code).isNone && (h.locate b.program).isSome
  | removal _ => false

variable {h located}

theorem fill_scan (a : Adapter) (s : Staged) (container : String) :
    ((scan a).template h located).fill s.dir container =
      ⟨a.command h located s, { seconds := a.seconds }⟩ := by
  cases a <;> simp [template, scanTemplate, Template.fill, Pieces.map_fill_texts, Pieces.fill_file,
    Adapter.command, Analysis.semgrepCommand, Analysis.banditCommand, Adapter.seconds]

theorem fill_check (b : Sandbox) (s : Staged) (container : String) :
    ((check b).template h located).fill s.dir container =
      ⟨b.command located container s, b.limits⟩ := by
  obtain ⟨kind, settings, deny⟩ := b
  cases kind with
  | host =>
    simp [template, hostTemplate, Template.fill, Pieces.map_fill_texts, Pieces.fill_file,
      Pieces.fill_dir, Sandbox.command, Sandbox.limits, Sandbox.hostCommand]
  | container =>
    simp [template, containerTemplate, Template.fill, Pieces.map_fill_texts, Pieces.fill_container,
      Pieces.fill_mount, Sandbox.command, Sandbox.limits, Sandbox.containerCommand,
      Sandbox.containerOptions]

theorem fill_removal (b : Sandbox) (dir container : String) :
    ((removal b).template h located).fill dir container =
      ⟨Sandbox.removalCommand located container, Sandbox.removalLimits⟩ := by
  simp [template, removalTemplate, Template.fill, Pieces.map_fill_texts, Pieces.fill_container,
    Sandbox.removalCommand]

end Purpose

def Host.containerName (h : Host) (n : Nat) : String := "scoring-" ++ h.uuid n

/-- A launch together with the names that were made for it. -/
structure Execution where
  purpose : Purpose
  copy : Staged
  container : String
  launch : Launch

/-- The launch fills its template, while the directory that was made for it holds a copy of `code`
and all that is in `base` is there. -/
structure Execution.Fits (e : Execution) (h : Host) (code : String) (base : List Staged) :
    Prop where
  copy : ∃ n, e.copy = ⟨h.dirName e.purpose.tag n, code⟩
  container : ∃ n, e.container = h.containerName n
  job : ∃ located, h.locate e.purpose.program = some located ∧
    e.launch.job = (e.purpose.template h located).fill e.copy.dir e.container
  staged : e.launch.staged = e.copy :: base

/-- The part of a list that is left if staging stops for the others, which have the numbers from `n`
on. -/
def Host.usable {α : Type} (h : Host) : Nat → List α → List α
  | _, [] => []
  | n, a :: rest =>
    if (h.staging n).isNone then a :: usable h (n + 1) rest else usable h (n + 1) rest

theorem Host.usable_append {α : Type} (h : Host) (n : Nat) (xs ys : List α) :
    h.usable n (xs ++ ys) = h.usable n xs ++ h.usable (n + xs.length) ys := by
  induction xs generalizing n with
  | nil => rfl
  | cons a rest ih =>
    simp only [List.cons_append, usable, ih, List.length_cons, Nat.add_assoc, Nat.add_comm 1]
    split <;> rfl

theorem Host.usable_sublist {α : Type} (h : Host) (n : Nat) (xs : List α) :
    (h.usable n xs).Sublist xs := by
  induction xs generalizing n with
  | nil => exact List.Sublist.refl []
  | cons a rest ih =>
    unfold usable
    split
    · exact (ih (n + 1)).cons_cons a
    · exact (ih (n + 1)).cons a

/-- From `t` to `u` all that was `due` was staged or could not be, and `new` was launched. -/
structure Pass (h : Host) (code : String) (due : List Purpose) (new : List Execution)
    (t u : Trace) : Prop where
  unwritten : u.unwritten = t.unwritten
  staged : u.staged = t.staged
  dirs : u.dirs = t.dirs + due.length
  launches : u.launches = t.launches ++ new.map Execution.launch
  fits : ∀ e ∈ new, e.Fits h code t.staged

namespace Pass

variable {h : Host} {code : String} {t u v : Trace}

theorem refl (h : Host) (code : String) (t : Trace) : Pass h code [] [] t t :=
  ⟨rfl, rfl, rfl, (List.append_nil _).symm, by simp⟩

theorem numbered (h : Host) (code : String) (p : Purpose) (t : Trace) :
    Pass h code [p] [] t t.numbered :=
  ⟨rfl, rfl, rfl, (List.append_nil _).symm, by simp⟩

theorem trans {due later : List Purpose} {new more : List Execution}
    (first : Pass h code due new t u) (second : Pass h code later more u v) :
    Pass h code (due ++ later) (new ++ more) t v where
  unwritten := second.unwritten.trans first.unwritten
  staged := second.staged.trans first.staged
  dirs := by rw [second.dirs, first.dirs, List.length_append, Nat.add_assoc]
  launches := by rw [second.launches, first.launches, List.map_append, List.append_assoc]
  fits e mem := by
    rcases List.mem_append.mp mem with old | recent
    · exact first.fits e old
    · exact first.staged ▸ second.fits e recent

theorem of_launched {p : Purpose} {s : Staged} {jobs : List Job} {new : List Execution}
    (launched : Launched jobs (t.withCopy s) v)
    (made : v.launches = t.launches ++ new.map Execution.launch)
    (fits : ∀ e ∈ new, e.Fits h code t.staged) :
    Pass h code [p] new t { v with staged := v.staged.erase s } where
  unwritten := launched.unwritten
  staged := by
    rw [launched.staged]
    exact List.erase_cons_head ..
  dirs := launched.dirs
  launches := made
  fits := fits

end Pass

namespace Adapter

variable {a : Adapter} {h : Host} {code : String} {t : Trace}

theorem isDue_iff :
    (Purpose.scan a).isDue h code = true ↔ (h.locate a.binary).isSome ∧ a.HasRules h := by
  simp [Purpose.isDue]

theorem pass_scan (a : Adapter) (h : Host) (code : String) (t : Trace) :
    let due := [Purpose.scan a].filter (Purpose.isDue h code)
    ∃ new, Pass h code due new t ((a.scan h code).run t).2 ∧
      new.map Execution.purpose = h.usable t.dirs due := by
  cases isDue : (Purpose.scan a).isDue h code with
  | false =>
    have idle : (a.scan h code).run t = ([], t) := by
      by_cases rules : a.HasRules h
      · have missing : h.locate a.binary = none := by simpa [Purpose.isDue, rules] using isDue
        exact scan_missing missing
      · exact scan_unruled rules
    simp only [List.filter_cons, isDue, List.filter_nil, idle]
    exact ⟨[], .refl h code t, rfl⟩
  | true =>
    obtain ⟨there, rules⟩ := isDue_iff.mp isDue
    obtain ⟨located, found⟩ := Option.isSome_iff_exists.mp there
    simp only [List.filter_cons, isDue, List.filter_nil, if_true]
    cases staging : h.staging t.dirs with
    | some fault =>
      rw [scan_unstaged found rules staging]
      refine ⟨[], .numbered h code _ t, ?_⟩
      simp [Host.usable, staging]
    | none =>
      have ready : a.Ready h t located := ⟨found, rules, staging⟩
      let e : Execution := ⟨.scan a, h.nextStaged a.tag code t, h.containerName t.names,
        a.launch h code t located⟩
      have fits : e.Fits h code t.staged :=
        ⟨⟨t.dirs, rfl⟩, ⟨t.names, rfl⟩, ⟨located, found, (Purpose.fill_scan a _ _).symm⟩, rfl⟩
      rw [ready.run_scan]
      refine ⟨[e], ⟨rfl, rfl, rfl, rfl, by simpa using fits⟩, ?_⟩
      simp [Host.usable, staging, e]

end Adapter

namespace ScoringService

theorem pass_analyze (h : Host) (code : String) (adapters : List Adapter) (t : Trace) :
    let due := (adapters.map Purpose.scan).filter (Purpose.isDue h code)
    ∃ new, Pass h code due new t ((analyze code (adapters.map (Adapter.analyzer h))).run t).2 ∧
      new.map Execution.purpose = h.usable t.dirs due := by
  induction adapters generalizing t with
  | nil => exact ⟨[], .refl h code t, rfl⟩
  | cons a rest ih =>
    -- The other tools stage behind the first one, so the numbers of their directories are higher.
    obtain ⟨new, first, used⟩ := a.pass_scan h code t
    obtain ⟨more, later, rest_⟩ := ih ((a.scan h code).run t).2
    have split : ((a :: rest).map Purpose.scan).filter (Purpose.isDue h code) =
        [Purpose.scan a].filter (Purpose.isDue h code) ++
          (rest.map Purpose.scan).filter (Purpose.isDue h code) := by
      rw [← List.filter_append]
      rfl
    rw [first.dirs] at rest_
    refine ⟨new ++ more, ?_, ?_⟩
    · rw [split]
      exact first.trans later
    · rw [split, List.map_append, used, rest_, Host.usable_append]

end ScoringService

def Host.answer (h : Host) (past : List Launch) (l : Launch) : Except Failure RunOutcome :=
  (h.reply past l.command l.limits).result

/-- The container of a check has run out of time. -/
structure Execution.IsLate (e : Execution) (h : Host) (past : List Launch) (b : Sandbox) :
    Prop where
  purpose : e.purpose = .check b
  kind : b.kind = .container
  answer : ∃ o, h.answer past e.launch = .ok o ∧ o.status = .timedOut

theorem Execution.isLate_iff {e : Execution} {h : Host} {past : List Launch} {b b' : Sandbox}
    {o : RunOutcome} (purpose : e.purpose = .check b) (ends : h.answer past e.launch = .ok o) :
    e.IsLate h past b' ↔ b' = b ∧ b.kind = .container ∧ o.status = .timedOut := by
  constructor
  · rintro ⟨check, kind, o', again, timedOut⟩
    obtain rfl := Purpose.check.inj (purpose.symm.trans check)
    obtain rfl := Except.ok.inj (ends.symm.trans again)
    exact ⟨rfl, kind, timedOut⟩
  · rintro ⟨rfl, kind, timedOut⟩
    exact ⟨purpose, kind, o, ends, timedOut⟩

/-- After `checks` the container of a check is removed if it has run out of time, while its copy is
still there. -/
inductive Removes (h : Host) (past : List Launch) : List Execution → List Execution → Prop
  | nothing {checks : List Execution} (quiet : ∀ e ∈ checks, ∀ b, ¬e.IsLate h past b) :
      Removes h past checks []
  | container {e r : Execution} {b : Sandbox} (late : e.IsLate h past b)
      (purpose : r.purpose = .removal b) (copy : r.copy = e.copy)
      (name : r.container = e.container) : Removes h past [e] [r]

theorem Removes.exists_check {h : Host} {past : List Launch} {checks removals : List Execution}
    (removes : Removes h past checks removals) {r : Execution} (mem : r ∈ removals) :
    ∃ e ∈ checks, r.copy = e.copy ∧ r.container = e.container ∧ ∃ b, r.purpose = .removal b := by
  cases removes with
  | nothing => cases mem
  | @container e _ b _ purpose copy name =>
    obtain rfl := List.mem_singleton.mp mem
    exact ⟨e, List.mem_singleton_self e, copy, name, b, purpose⟩

namespace Sandbox

variable {h : Host} {b : Sandbox} {code : String} {t : Trace}

theorem isDue_iff : (Purpose.check b).isDue h code = true ↔
    (b.deny.find? code).isSome = false ∧ (h.locate b.program).isSome = true := by
  simp [Purpose.isDue]

theorem pass_run_idle (idle : (Purpose.check b).isDue h code = false) :
    ((b.run h code).run t).2 = t := by
  cases denied : (b.deny.find? code).isSome with
  | true => rw [run_denied denied]
  | false =>
    have missing : h.locate b.program = none := by
      simpa [Purpose.isDue, Option.isSome_eq_false_iff.mp denied] using idle
    rw [run_notFound denied missing]

variable (h code t) in
def execution (p : Purpose) (l : Launch) : Execution :=
  ⟨p, h.nextStaged "sandbox-" code t, containerName h t, l⟩

theorem fits_check {located : String} (found : h.locate b.program = some located) {l : Launch}
    (job : l.job = ⟨b.checkCommand h code t located, b.limits⟩)
    (staged : l.staged = h.nextStaged "sandbox-" code t :: t.staged) :
    (execution h code t (.check b) l).Fits h code t.staged where
  copy := ⟨t.dirs, rfl⟩
  container := ⟨t.names, rfl⟩
  job := ⟨located, found, job.trans (Purpose.fill_check b _ _).symm⟩
  staged := staged

theorem fits_removal {located : String} (found : h.locate b.program = some located) {l : Launch}
    (job : l.job = ⟨removalCommand located (containerName h t), removalLimits⟩)
    (staged : l.staged = h.nextStaged "sandbox-" code t :: t.staged) :
    (execution h code t (.removal b) l).Fits h code t.staged where
  copy := ⟨t.dirs, rfl⟩
  container := ⟨t.names, rfl⟩
  job := ⟨located, found, job.trans (Purpose.fill_removal b _ _).symm⟩
  staged := staged

theorem answer_eq_reply {located : String} {l : Launch}
    (job : l.job = ⟨b.checkCommand h code t located, b.limits⟩) :
    h.answer t.launches l = b.reply h code t located := by
  have command : l.command = b.checkCommand h code t located := congrArg Job.command job
  have limits : l.limits = b.limits := congrArg Job.limits job
  rw [Host.answer, command, limits, reply]

variable (code t) in
/-- A check of a staged copy is one launch, and another one if it is late. -/
theorem pass_check {located : String} (found : h.locate b.program = some located) :
    let s := h.nextStaged "sandbox-" code t
    let checked := (b.check h located s).run (t.withCopy s)
    ∃ l removals, Pass h code [.check b] (execution h code t (.check b) l :: removals) t
        { checked.2 with staged := checked.2.staged.erase s } ∧
      Removes h t.launches [execution h code t (.check b) l] removals := by
  intro s checked
  cases replied : b.reply h code t located with
  | error f =>
    obtain ⟨_, launched⟩ := check_of_error replied
    obtain ⟨new, made, jobs, held⟩ := launched.launches
    obtain ⟨l, rfl, job⟩ := List.map_eq_singleton_iff.mp jobs
    have fits := fits_check found job (held l (by simp))
    refine ⟨l, [], .of_launched launched made (by simpa using fits), .nothing ?_⟩
    -- What was not launched cannot be late.
    rintro e mem b' late
    obtain rfl := List.mem_singleton.mp mem
    obtain ⟨o, answer, _⟩ := late.answer
    cases answer.symm.trans ((answer_eq_reply job).trans replied)
  | ok o =>
    obtain ⟨_, launched⟩ := check_of_ok replied
    obtain ⟨new, made, jobs, held⟩ := launched.launches
    obtain ⟨l, rest, rfl, job, others⟩ := List.map_eq_cons_iff.mp jobs
    have fits := fits_check found job (held l (by simp))
    have answer := (answer_eq_reply job).trans replied
    rw [cleanup_eq] at others
    by_cases late : b.kind = .container ∧ o.status = .timedOut
    · rw [if_pos late, List.map_singleton] at others
      obtain ⟨r, rfl, removal⟩ := List.map_eq_singleton_iff.mp others
      have removed := fits_removal found removal (held r (by simp))
      refine ⟨l, [execution h code t (.removal b) r], .of_launched launched made ?_, ?_⟩
      · simpa using ⟨fits, removed⟩
      · exact .container ((Execution.isLate_iff rfl answer).mpr ⟨rfl, late⟩) rfl rfl rfl
    · rw [if_neg late, List.map_nil, List.map_eq_nil_iff] at others
      subst others
      refine ⟨l, [], .of_launched launched made (by simpa using fits), .nothing ?_⟩
      rintro e mem b' isLate
      obtain rfl := List.mem_singleton.mp mem
      exact late ((Execution.isLate_iff rfl answer).mp isLate).2

theorem pass_run (h : Host) (b : Sandbox) (code : String) (t : Trace) :
    let due := [Purpose.check b].filter (Purpose.isDue h code)
    ∃ checks removals, Pass h code due (checks ++ removals) t ((b.run h code).run t).2 ∧
      checks.map Execution.purpose = h.usable t.dirs due ∧
      Removes h t.launches checks removals := by
  cases isDue : (Purpose.check b).isDue h code with
  | false =>
    simp only [List.filter_cons, isDue, List.filter_nil, pass_run_idle isDue]
    exact ⟨[], [], .refl h code t, rfl, .nothing (by simp)⟩
  | true =>
    obtain ⟨clean, there⟩ := isDue_iff.mp isDue
    obtain ⟨located, found⟩ := Option.isSome_iff_exists.mp there
    simp only [List.filter_cons, isDue, List.filter_nil, if_true]
    cases staging : h.staging t.dirs with
    | some fault =>
      rw [run_unstaged clean found staging]
      refine ⟨[], [], .numbered h code _ t, ?_, .nothing (by simp)⟩
      simp [Host.usable, staging]
    | none =>
      rw [run_staged clean found staging]
      obtain ⟨l, removals, pass, removes⟩ := pass_check code t found
      refine ⟨[_], removals, pass, ?_, removes⟩
      simp [Host.usable, staging, execution]

end Sandbox

structure Launching where
  scans : List Execution
  checks : List Execution
  removals : List Execution

def Launching.all (l : Launching) : List Execution := l.scans ++ (l.checks ++ l.removals)

/-- The scans that nothing but staging keeps from their launches. -/
def Host.dueScans (h : Host) (s : AnalyzerSettings) (code : String) : List Purpose :=
  (s.adapters.map Purpose.scan).filter (Purpose.isDue h code)

def Host.dueChecks (h : Host) (sandbox : Option Sandbox) (code : String) : List Purpose :=
  (sandbox.toList.map Purpose.check).filter (Purpose.isDue h code)

/-- In a pass from `t` to `u` all that is due and can be staged is launched, and nothing else but
removals. -/
structure Follows (h : Host) (s : AnalyzerSettings) (sandbox : Option Sandbox) (code : String)
    (t u : Trace) (l : Launching) : Prop where
  pass : Pass h code (h.dueScans s code ++ h.dueChecks sandbox code) l.all t u
  scans : l.scans.map Execution.purpose = h.usable t.dirs (h.dueScans s code)
  checks : l.checks.map Execution.purpose =
    h.usable (t.dirs + (h.dueScans s code).length) (h.dueChecks sandbox code)
  removals : Removes h (t.launches ++ l.scans.map Execution.launch) l.checks l.removals

namespace Follows

variable {h : Host} {s : AnalyzerSettings} {sandbox : Option Sandbox} {code : String} {t u : Trace}
  {l : Launching} (follows : Follows h s sandbox code t u l)

include follows

theorem scans_sublist :
    (l.scans.map Execution.purpose).Sublist (s.adapters.map Purpose.scan) := by
  rw [follows.scans]
  exact (h.usable_sublist _ _).trans List.filter_sublist

theorem checks_sublist :
    (l.checks.map Execution.purpose).Sublist (sandbox.toList.map Purpose.check) := by
  rw [follows.checks]
  exact (h.usable_sublist _ _).trans List.filter_sublist

theorem scan_of_mem {e : Execution} (mem : e ∈ l.scans) :
    ∃ a ∈ s.adapters, e.purpose = .scan a := by
  have enabled := follows.scans_sublist.subset (List.mem_map_of_mem mem)
  obtain ⟨a, mem, same⟩ := List.mem_map.mp enabled
  exact ⟨a, mem, same.symm⟩

theorem check_of_mem {e : Execution} (mem : e ∈ l.checks) :
    ∃ b ∈ sandbox, e.purpose = .check b := by
  have configured := follows.checks_sublist.subset (List.mem_map_of_mem mem)
  obtain ⟨b, mem, same⟩ := List.mem_map.mp configured
  exact ⟨b, Option.mem_toList.mp mem, same.symm⟩

theorem eq_of_check {e : Execution} (mem : e ∈ l.all) {b : Sandbox}
    (purpose : e.purpose = .check b) : sandbox = some b := by
  rcases List.mem_append.mp mem with scanned | mem
  · obtain ⟨a, _, scan⟩ := follows.scan_of_mem scanned
    cases scan.symm.trans purpose
  rcases List.mem_append.mp mem with checked | removed
  · obtain ⟨b', configured, check⟩ := follows.check_of_mem checked
    obtain rfl := Purpose.check.inj (check.symm.trans purpose)
    exact configured
  · obtain ⟨_, _, _, _, b', removal⟩ := follows.removals.exists_check removed
    cases removal.symm.trans purpose

omit follows in
theorem exists_check {b : Sandbox} (follows : Follows h s (some b) code t u l)
    (due : (Purpose.check b).isDue h code = true)
    (staged : h.staging (t.dirs + (h.dueScans s code).length) = none) :
    ∃ e ∈ l.all, e.purpose = .check b := by
  have checks : l.checks.map Execution.purpose = [.check b] := by
    rw [follows.checks]
    simp [Host.dueChecks, due, Host.usable, staged]
  obtain ⟨e, one, purpose⟩ := List.map_eq_singleton_iff.mp checks
  exact ⟨e, by simp [Launching.all, one], purpose⟩

end Follows

namespace ScoringService

def onHost (h : Host) (s : AnalyzerSettings) (sandbox : Option Sandbox) (p : ScorePolicy) :
    ScoringService Work :=
  ⟨s.analyzers h, sandbox.map (Sandbox.run h), p⟩

theorem follows_score (h : Host) (s : AnalyzerSettings) (sandbox : Option Sandbox)
    (p : ScorePolicy) (slug code : String) (t : Trace) :
    ∃ l, Follows h s sandbox code t (((onHost h s sandbox p).score slug code).run t).2 l := by
  obtain ⟨scans, analysis, used⟩ := pass_analyze h code s.adapters t
  rw [← AnalyzerSettings.analyzers_eq] at analysis
  cases sandbox with
  | none =>
    refine ⟨⟨scans, [], []⟩, ?_, used, rfl, .nothing (by simp)⟩
    exact analysis.trans (.refl h code _)
  | some b =>
    obtain ⟨checks, removals, check, checked, removes⟩ :=
      b.pass_run h code ((analyze code (s.analyzers h)).run t).2
    rw [analysis.dirs] at checked
    rw [analysis.launches] at removes
    exact ⟨⟨scans, checks, removals⟩, analysis.trans check, used, checked, removes⟩

end ScoringService

end FixGrader
