import FixGrader.Tool.Host

namespace FixGrader

def Host.dirName (h : Host) (tag : String) (n : Nat) : String := s!"{h.tempDir}/{tag}{h.suffix n}"

/-- The next copy of a snippet that a host stages. -/
def Host.nextStaged (h : Host) (tag code : String) (t : Trace) : Staged :=
  ⟨s!"{h.tempDir}/{tag}{h.suffix t.dirs}", code⟩

/-- What is launched, and under which limits. -/
structure Job where
  command : Command
  limits : Limits

def Launch.job (l : Launch) : Job := ⟨l.command, l.limits⟩

theorem Job.map_command_map (commands : List Command) (limits : Limits) :
    (commands.map (Job.mk · limits)).map Job.command = commands := by
  rw [List.map_map]
  exact List.map_id commands

namespace Trace

/-- Another directory was made, of which nothing is left. -/
def numbered (t : Trace) : Trace := { t with dirs := t.dirs + 1 }

/-- Another directory was made, which holds a copy. -/
def withCopy (t : Trace) (s : Staged) : Trace :=
  { t with dirs := t.dirs + 1, staged := s :: t.staged }

variable (t : Trace) (s : Staged)

theorem withCopy_launches : (t.withCopy s).launches = t.launches := rfl

theorem withCopy_names : (t.withCopy s).names = t.names := rfl

end Trace

namespace Work

theorem run_bind {α β : Type} (x : Work α) (f : α → Work β) (t : Trace) :
    (x >>= f).run t = (f (x.run t).1).run (x.run t).2 := rfl

theorem run_pure {α : Type} (a : α) (t : Trace) :
    (pure a : Work α).run t = (a, t) := rfl

theorem run_launch (h : Host) (c : Command) (l : Limits) (t : Trace) :
    (launch h c l).run t = ((h.reply t.launches c l).result, { t with
      clock := t.clock + (h.reply t.launches c l).millis
      launches := t.launches ++ [⟨c, l, t.clock, t.staged⟩] }) := rfl

theorem run_freshName (h : Host) (t : Trace) :
    (freshName h).run t = (h.uuid t.names, { t with names := t.names + 1 }) := rfl

theorem run_discard (s : Staged) (t : Trace) :
    (discard s).run t = ((), { t with staged := t.staged.erase s }) := rfl

theorem run_makeDir (h : Host) {tag : String} (named : isStagingTag tag = true)
    (fault : Option StagingFault) (t : Trace) : (makeDir h tag fault).run t =
      match fault with
      | some (.creation cause) => (.error (.creation cause), t.numbered)
      | _ => (.ok (h.dirName tag t.dirs),
          { t.numbered with unwritten := h.dirName tag t.dirs :: t.unwritten }) := by
  simp only [makeDir, StateT.run, named]
  rfl

theorem run_get (t : Trace) : (get : Work Trace).run t = (t, t) := rfl

theorem run_removeDir (dir : String) (t : Trace) :
    (removeDir dir).run t = ((), { t with unwritten := t.unwritten.erase dir }) := rfl

theorem run_writeCopy (dir code : String) (t : Trace) : (writeCopy dir code none).run t =
    (.ok ⟨dir, code⟩,
      { t with unwritten := t.unwritten.erase dir, staged := ⟨dir, code⟩ :: t.staged }) := rfl

theorem run_writeCopy_fault (dir code : String) (fault : StagingFault) (t : Trace) :
    (writeCopy dir code (some fault)).run t = (.error fault, t) := rfl

/-- A directory that is made and cannot be written to is gone in the end. -/
theorem run_stage (h : Host) {tag : String} (named : isStagingTag tag = true) (code : String)
    (t : Trace) : (stage h tag code).run t =
      match h.staging t.dirs with
      | some fault => (.error fault, t.numbered)
      | none => (.ok (h.nextStaged tag code t), t.withCopy (h.nextStaged tag code t)) := by
  have made := run_makeDir h named (h.staging t.dirs) t
  have erased : (h.dirName tag t.dirs :: t.unwritten).erase (h.dirName tag t.dirs) = t.unwritten :=
    List.erase_cons_head ..
  cases staging : h.staging t.dirs with
  | none =>
    rw [staging] at made
    simp only [stage, run_bind, run_get, staging, made, run_writeCopy, erased, run_pure]
    rfl
  | some fault =>
    rw [staging] at made
    cases fault with
    | creation cause => simp only [stage, run_bind, run_get, staging, made, run_pure]
    | writing file cause =>
      simp only [stage, run_bind, run_get, staging, made, run_writeCopy_fault, run_removeDir,
        erased, run_pure]
      rfl

variable {α : Type} {h : Host} {tag : String} {t : Trace}

theorem run_withStaged_fault (named : isStagingTag tag = true) {fault : StagingFault}
    (faulty : h.staging t.dirs = some fault) (code : String) (use : Staged → Work α) :
    (withStaged h tag code use).run t = (.error fault, t.numbered) := by
  have stage := run_stage h named code t
  rw [faulty] at stage
  simp only [withStaged, run_bind, stage, run_pure]

theorem run_withStaged (named : isStagingTag tag = true) (staged : h.staging t.dirs = none)
    (code : String) (use : Staged → Work α) :
    let s := h.nextStaged tag code t
    let used := (use s).run (t.withCopy s)
    (withStaged h tag code use).run t =
      (.ok used.1, { used.2 with staged := used.2.staged.erase s }) := by
  have stage := run_stage h named code t
  rw [staged] at stage
  simp only [withStaged, run_bind, stage, run_discard, run_pure]

end Work

/-- From `t` to `u`, `jobs` were launched, and no directory was made or removed. -/
structure Launched (jobs : List Job) (t u : Trace) : Prop where
  unwritten : u.unwritten = t.unwritten
  staged : u.staged = t.staged
  dirs : u.dirs = t.dirs
  launches : ∃ new, u.launches = t.launches ++ new ∧ new.map Launch.job = jobs ∧
    ∀ l ∈ new, l.staged = t.staged

namespace Launched

theorem trans {jobs more : List Job} {t u v : Trace} (first : Launched jobs t u)
    (second : Launched more u v) : Launched (jobs ++ more) t v := by
  obtain ⟨new, before, made, seen⟩ := first.launches
  obtain ⟨new', after, made', seen'⟩ := second.launches
  refine ⟨second.unwritten.trans first.unwritten, second.staged.trans first.staged,
    second.dirs.trans first.dirs, new ++ new', ?_, ?_, ?_⟩
  · rw [after, before, List.append_assoc]
  · rw [List.map_append, made, made']
  · intro l mem
    rcases List.mem_append.mp mem with old | recent
    · exact seen l old
    · exact (seen' l recent).trans first.staged

theorem commands {jobs : List Job} {t u : Trace} (launched : Launched jobs t u) :
    u.launches.map Launch.command =
      t.launches.map Launch.command ++ jobs.map Job.command := by
  obtain ⟨new, after, rfl, _⟩ := launched.launches
  rw [after, List.map_append, List.map_map]
  rfl

theorem launch (h : Host) (c : Command) (l : Limits) (t : Trace) :
    Launched [⟨c, l⟩] t ((Work.launch h c l).run t).2 :=
  ⟨rfl, rfl, rfl, [⟨c, l, t.clock, t.staged⟩], rfl, rfl, by simp⟩

theorem freshName (h : Host) (t : Trace) : Launched [] t ((Work.freshName h).run t).2 :=
  ⟨rfl, rfl, rfl, [], by simp [Work.run_freshName], rfl, by simp⟩

end Launched

end FixGrader
