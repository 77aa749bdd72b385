import FixGrader.Analysis.Basic
import FixGrader.Proofs.Analysis.Report
import FixGrader.Proofs.Json.Reading
import FixGrader.Proofs.Tool.Staging

namespace FixGrader

inductive Adapter where
  | semgrep (s : SemgrepSettings)
  | bandit (s : BanditSettings)

namespace Adapter

variable (a : Adapter) (h : Host)

def name : Adapter → String
  | semgrep _ => "semgrep"
  | bandit _ => "bandit"

def binary : Adapter → String
  | semgrep s => s.binary
  | bandit s => s.binary

def seconds : Adapter → UInt64
  | semgrep s => s.seconds
  | bandit s => s.seconds

def tag : Adapter → String
  | semgrep _ => "semgrep-"
  | bandit _ => "bandit-"

def scan : Adapter → String → Work (List Issue)
  | semgrep s => Analysis.semgrep h s
  | bandit s => Analysis.bandit h s

def report? : Adapter → String → Option (List Issue)
  | semgrep _ => Report.semgrep?
  | bandit _ => Report.bandit?

def HasRules : Adapter → Prop
  | semgrep s => ∃ rule ∈ s.rules, h.hasPath rule = true
  | bandit _ => True

def command (located : String) (s : Staged) : Adapter → Command
  | semgrep settings =>
    Analysis.semgrepCommand located (settings.rules.filter h.hasPath) s.file
  | bandit settings => Analysis.banditCommand settings located s.file

/-- The message and the severity that an entry of the tool's report gives. -/
def Entry : Adapter → Json → Option String → Option String → Prop
  | semgrep _ => Report.SemgrepEntry
  | bandit _ => Report.BanditEntry

def defaultMessage : Adapter → String
  | semgrep _ => "Semgrep rule triggered."
  | bandit _ => "Bandit security issue detected."

def defaultSeverity : Adapter → String
  | semgrep _ => "info"
  | bandit _ => "MEDIUM"

/-- The issue of an entry is the tool's, and where the entry gives no message or severity it has
the tool's default. -/
def Gives (j : Json) (i : Issue) : Prop :=
  ∃ message severity, a.Entry j message severity ∧
    i = ⟨a.name, message.getD a.defaultMessage, severity.getD a.defaultSeverity⟩

/-- The output is a report, and the issues are those of its entries in order. -/
def Reports (stdout : String) (issues : List Issue) : Prop :=
  ∃ entries, Entries stdout entries ∧ List.Forall₂ a.Gives entries issues

variable {a h} {code : String} {t : Trace} {located : String}

theorem report?_eq_some_iff {stdout : String} {issues : List Issue} :
    a.report? stdout = some issues ↔ a.Reports stdout issues := by
  cases a with
  | semgrep s =>
    have gives (j : Json) (i : Issue) :
        Report.semgrepFinding? j = some i ↔ (semgrep s).Gives j i :=
      Report.semgrepFinding?_eq_some_iff
    simp only [report?, Report.semgrep?, Report.results?_eq_some_iff, gives, Reports]
  | bandit s =>
    have gives (j : Json) (i : Issue) : Report.banditFinding? j = some i ↔ (bandit s).Gives j i :=
      Report.banditFinding?_eq_some_iff
    simp only [report?, Report.bandit?, Report.results?_eq_some_iff, gives, Reports]

theorem isStagingTag_tag (a : Adapter) : isStagingTag a.tag = true := by
  have semgrep : Text.Utf8.size "semgrep-" + 6 ≤ maxNameSize := by decide +kernel
  have bandit : Text.Utf8.size "bandit-" + 6 ≤ maxNameSize := by decide +kernel
  cases a <;> simp [tag, isStagingTag, semgrep, bandit]

theorem scan_missing (missing : h.locate a.binary = none) : (a.scan h code).run t = ([], t) := by
  cases a <;> simp only [scan, Analysis.semgrep, Analysis.bandit, binary] at missing ⊢ <;>
    simp only [missing, Work.run_pure]

theorem scan_unruled (bare : ¬a.HasRules h) : (a.scan h code).run t = ([], t) := by
  cases a with
  | bandit => exact absurd trivial bare
  | semgrep s =>
    have none_ : (s.rules.filter h.hasPath).isEmpty = true := by
      simpa [HasRules] using bare
    simp only [scan, Analysis.semgrep, none_]
    cases h.locate s.binary <;> rfl

theorem scan_eq_runTool (found : h.locate a.binary = some located) (rules : a.HasRules h) :
    a.scan h code = Analysis.runTool h a.tag code a.seconds (a.command h located) a.report? := by
  cases a with
  | bandit s =>
    simp only [binary] at found
    simp only [scan, Analysis.bandit, found]
    rfl
  | semgrep s =>
    have some_ : (s.rules.filter h.hasPath).isEmpty = false := by
      simpa [HasRules] using rules
    simp only [binary] at found
    simp only [scan, Analysis.semgrep, found, some_]
    rfl

variable (a h code t) (located) in
def launch : Launch :=
  let s := h.nextStaged a.tag code t
  ⟨a.command h located s, { seconds := a.seconds }, t.clock, s :: t.staged⟩

variable (a h code t) (located) in
def reply : Except Failure RunOutcome :=
  let l := a.launch h code t located
  (h.reply t.launches l.command l.limits).result

/-- The tool did all its work, and found nothing or something. -/
def Finished (o : RunOutcome) : Prop := o.status = .exited 0 ∨ o.status = .exited 1

variable (a h code t) (located) in
/-- Nothing keeps the tool from being launched. -/
structure Ready : Prop where
  found : h.locate a.binary = some located
  rules : a.HasRules h
  staged : h.staging t.dirs = none

theorem scan_unstaged (found : h.locate a.binary = some located) (rules : a.HasRules h)
    {fault : StagingFault} (faulty : h.staging t.dirs = some fault) :
    (a.scan h code).run t = ([], t.numbered) := by
  have stage := Work.run_withStaged_fault (a.isStagingTag_tag) faulty code
    fun s => Work.launch h (a.command h located s) { seconds := a.seconds }
  rw [scan_eq_runTool found rules]
  simp only [Analysis.runTool, Work.run_bind, stage, Work.run_pure]

def heard (a : Adapter) : Except Failure RunOutcome → List Issue
  | .error _ => []
  | .ok o =>
    match o.status with
    | .exited 0 | .exited 1 => (a.report? o.stdout).getD []
    | _ => []

theorem heard_of_finished {o : RunOutcome} (finished : Finished o) :
    a.heard (.ok o) = (a.report? o.stdout).getD [] := by
  rcases finished with ends | ends <;> simp only [heard, ends]

theorem heard_of_unfinished {o : RunOutcome} (unfinished : ¬Finished o) : a.heard (.ok o) = [] := by
  simp only [heard]
  split
  next ends => exact absurd (.inl ends) unfinished
  next ends => exact absurd (.inr ends) unfinished
  next => rfl

theorem Ready.run_scan (ready : a.Ready h t located) : (a.scan h code).run t =
    (a.heard (a.reply h code t located), { t.numbered with
      clock := t.clock + (h.reply t.launches (a.launch h code t located).command
        (a.launch h code t located).limits).millis
      launches := t.launches ++ [a.launch h code t located] }) := by
  have stage := Work.run_withStaged (a.isStagingTag_tag) ready.staged code
    fun s => Work.launch h (a.command h located s) { seconds := a.seconds }
  rw [scan_eq_runTool ready.found ready.rules]
  -- The copy is the newest one, so its removal leaves those of before.
  have erased : (t.withCopy (h.nextStaged a.tag code t)).staged.erase (h.nextStaged a.tag code t) =
      t.staged := List.erase_cons_head ..
  simp only [Analysis.runTool, Work.run_bind, stage, Work.run_launch, erased]
  cases replied : a.reply h code t located with
  | error f =>
    simp only [reply, launch] at replied
    simp only [Trace.withCopy_launches, replied]
    rfl
  | ok o =>
    simp only [reply, launch] at replied
    simp only [Trace.withCopy_launches, replied]
    split
    next ends =>
      rw [heard_of_finished (.inl ends)]
      rfl
    next ends =>
      rw [heard_of_finished (.inr ends)]
      rfl
    next clean findings =>
      rw [heard_of_unfinished fun finished => finished.elim clean findings]
      rfl

variable (a h code t located) in
/-- What is launched and found where the tool is `located` and nothing keeps it from its launch. -/
structure Hears (found : List Issue) (launches : List Launch) : Prop where
  launched : launches = [a.launch h code t located]
  failed : ∀ f, a.reply h code t located = .error f → found = []
  unfinished : ∀ o, a.reply h code t located = .ok o → ¬Finished o → found = []
  reported : ∀ o issues, a.reply h code t located = .ok o → Finished o →
    a.Reports o.stdout issues → found = issues
  unreadable : ∀ o, a.reply h code t located = .ok o →
    (∀ issues, ¬a.Reports o.stdout issues) → found = []
  spoiled : ∀ o entries, a.reply h code t located = .ok o → Entries o.stdout entries →
    (∃ j ∈ entries, ∀ i, ¬a.Gives j i) → found = []

variable (a h code t) in
/-- What a scan from `t` on finds, and what it launches. -/
structure Scans (found : List Issue) (launches : List Launch) : Prop where
  idle : h.locate a.binary = none ∨ ¬a.HasRules h ∨ h.staging t.dirs ≠ none →
    found = [] ∧ launches = []
  ready : ∀ located, a.Ready h t located → a.Hears h code t located found launches

theorem scan_idle (code : String)
    (idle : h.locate a.binary = none ∨ ¬a.HasRules h ∨ h.staging t.dirs ≠ none) :
    ((a.scan h code).run t).1 = [] ∧ ((a.scan h code).run t).2.launches = t.launches := by
  by_cases rules : a.HasRules h
  · cases found : h.locate a.binary with
    | none => simp only [scan_missing found, and_self]
    | some located =>
      cases staging : h.staging t.dirs with
      | some fault =>
        rw [scan_unstaged found rules staging]
        exact ⟨rfl, rfl⟩
      | none => simp [found, rules, staging] at idle
  · simp only [scan_unruled rules, and_self]

theorem exists_ready
    (busy : ¬(h.locate a.binary = none ∨ ¬a.HasRules h ∨ h.staging t.dirs ≠ none)) :
    ∃ located, a.Ready h t located := by
  obtain ⟨located, found⟩ := Option.ne_none_iff_exists'.mp fun missing => busy (.inl missing)
  exact ⟨located, found, not_not.mp fun bare => busy (.inr (.inl bare)),
    not_not.mp fun faulty => busy (.inr (.inr faulty))⟩

theorem not_reports {stdout : String} {entries : List Json} (report : Entries stdout entries)
    (spoiled : ∃ j ∈ entries, ∀ i, ¬a.Gives j i) (issues : List Issue) :
    ¬a.Reports stdout issues := by
  rintro ⟨entries', report', each⟩
  obtain rfl := report.unique report'
  obtain ⟨j, mem, bad⟩ := spoiled
  obtain ⟨i, _, gives⟩ := exists_of_forall₂ each mem
  exact bad i gives

theorem heard_of_unreadable {o : RunOutcome} (bad : ∀ issues, ¬a.Reports o.stdout issues) :
    a.heard (.ok o) = [] := by
  by_cases finished : Finished o
  · have none_ : a.report? o.stdout = none :=
      Option.eq_none_iff_forall_ne_some.mpr fun i read => bad i (report?_eq_some_iff.mp read)
    rw [heard_of_finished finished, none_, Option.getD_none]
  · exact heard_of_unfinished finished

theorem hears (a : Adapter) (h : Host) (code : String) (t : Trace) (located : String) :
    a.Hears h code t located (a.heard (a.reply h code t located))
      [a.launch h code t located] where
  launched := rfl
  failed f fails := by rw [fails, heard]
  unfinished o ends unfinished := by rw [ends, heard_of_unfinished unfinished]
  reported o issues ends finished reports := by
    rw [ends, heard_of_finished finished, report?_eq_some_iff.mpr reports, Option.getD_some]
  unreadable o ends bad := by rw [ends, heard_of_unreadable bad]
  spoiled o entries ends report bad := by rw [ends, heard_of_unreadable (not_reports report bad)]

theorem tool_of_mem_heard {reply : Except Failure RunOutcome} {i : Issue}
    (mem : i ∈ a.heard reply) : i.tool = a.name := by
  cases reply with
  | error f => cases mem
  | ok o =>
    by_cases finished : Finished o
    · rw [heard_of_finished finished] at mem
      cases read : a.report? o.stdout with
      | none => simp [read] at mem
      | some issues =>
        rw [read, Option.getD_some] at mem
        obtain ⟨entries, _, gives⟩ := report?_eq_some_iff.mp read
        obtain ⟨_, _, _, _, _, rfl⟩ := exists_of_forall₂ gives.flip mem
        rfl
    · rw [heard_of_unfinished finished] at mem
      cases mem

/-- A scan launches the tool once, if there is nothing to keep it from that, and finds the issues of
the report, if the tool finishes and writes one. Whatever else happens, it finds nothing. -/
theorem scans_scan (a : Adapter) (h : Host) (code : String) (t : Trace) :
    ∃ launches, ((a.scan h code).run t).2.launches = t.launches ++ launches ∧
      a.Scans h code t ((a.scan h code).run t).1 launches := by
  by_cases idle : h.locate a.binary = none ∨ ¬a.HasRules h ∨ h.staging t.dirs ≠ none
  · obtain ⟨nothing, same⟩ := scan_idle code idle
    rw [nothing, same]
    refine ⟨[], (List.append_nil _).symm, fun _ => ⟨rfl, rfl⟩, fun located ready => ?_⟩
    rcases idle with missing | bare | faulty
    · cases missing.symm.trans ready.found
    · exact absurd ready.rules bare
    · exact absurd ready.staged faulty
  · obtain ⟨located, ready⟩ := exists_ready idle
    rw [ready.run_scan]
    refine ⟨_, rfl, fun busy => absurd busy idle, fun other again => ?_⟩
    obtain rfl := Option.some.inj (ready.found.symm.trans again.found)
    exact a.hears h code t located

/-- A host on which all programs are there, and end as tools do that have found something. -/
def findingHost (stdout : String) : Host where
  locate name := some ("/usr/bin/" ++ name)
  hasPath _ := true
  tempDir := "/tmp"
  suffix n := toString n
  staging _ := none
  uuid n := toString n
  reply _ _ _ := { result := .ok { status := .exited 1, stdout } }

def twoEntries : List Json :=
  [Json.obj [("issue_severity", .null), ("issue_text", .str "shell")],
    .array [.str "eval", .str "HIGH"]]

def twoFindings : String := (Json.obj [("results", .array twoEntries)]).render

theorem entries_twoFindings : Entries twoFindings twoEntries := by
  have lossless : Json.Lossless (Json.obj [("results", .array twoEntries)]) := by
    refine Json.lossless_obj ?_
    simp only [List.mem_singleton, forall_eq]
    refine .array ?_
    simp only [twoEntries, List.mem_cons, List.not_mem_nil, or_false, forall_eq_or_imp, forall_eq]
    refine ⟨Json.lossless_obj ?_, .array ?_⟩
    · simp [Json.lossless_str, Json.Lossless.null]
    · simp [Json.lossless_str]
  have full : Text.isBlankText twoFindings = false := by
    rw [Text.isBlankText, twoFindings, Json.render, String.toList_ofList]
    rfl
  exact .written full (Json.parse?_render lossless) (.object (by decide)) (.items _)

theorem scans_scan_bandit :
    (((bandit {}).scan (findingHost twoFindings) "x").run {}).1 =
        [⟨"bandit", "shell", "MEDIUM"⟩, ⟨"bandit", "eval", "HIGH"⟩] ∧
      (((bandit {}).scan (findingHost twoFindings) "x").run {}).2.launches.length = 1 := by
  obtain ⟨launches, launched, scans⟩ := scans_scan (bandit {}) (findingHost twoFindings) "x" {}
  have hears := scans.ready "/usr/bin/bandit" ⟨rfl, trivial, rfl⟩
  rw [launched, hears.launched]
  refine ⟨hears.reported _ _ rfl (.inr rfl) ⟨twoEntries, entries_twoFindings, ?_⟩, rfl⟩
  refine .cons ⟨some "shell", none, ?_, rfl⟩ (.cons ⟨some "eval", some "HIGH", ?_, rfl⟩ .nil)
  · exact .intro (.object (by decide)) (.text "shell") .null
  · exact .intro (.array (by decide) (by decide)) (.text "eval") (.text "HIGH")

theorem tool_of_mem {i : Issue} (mem : i ∈ ((a.scan h code).run t).1) : i.tool = a.name := by
  by_cases idle : h.locate a.binary = none ∨ ¬a.HasRules h ∨ h.staging t.dirs ≠ none
  · rw [(scan_idle code idle).1] at mem
    cases mem
  · obtain ⟨located, ready⟩ := exists_ready idle
    rw [ready.run_scan] at mem
    exact tool_of_mem_heard mem

def analyzer (h : Host) (a : Adapter) : Analyzer Work := ⟨a.name, a.scan h⟩

end Adapter

namespace AnalyzerSettings

/-- The tools that are enabled, in the order in which they run. -/
def adapters (s : AnalyzerSettings) : List Adapter :=
  (if s.semgrep.enabled then [.semgrep s.semgrep] else []) ++
    (if s.bandit.enabled then [.bandit s.bandit] else [])

theorem analyzers_eq (h : Host) (s : AnalyzerSettings) :
    s.analyzers h = s.adapters.map (Adapter.analyzer h) := by
  unfold analyzers adapters
  rw [List.map_append]
  congr 1 <;> split <;> rfl

end AnalyzerSettings

end FixGrader
