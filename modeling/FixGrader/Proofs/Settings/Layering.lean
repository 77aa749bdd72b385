import FixGrader.Proofs.Settings.Value
import Mathlib.Data.List.Nodup
import Mathlib.Logic.Function.Basic

namespace FixGrader

namespace Variable

def kind : Variable → ValueKind
  | logLevel | redisUrl | queueKey | semgrepBinary | banditBinary | banditSeverity
  | banditConfidence | python | runtime | image => .text
  | semgrepRules => .list
  | semgrepEnabled | banditEnabled => .switch
  | memoryMb | cpuShares | cpuSeconds | fullScore | mixedScore | zeroScore | ceiling => .word32
  | semgrepSeconds | banditSeconds | sandboxSeconds | stopSeconds => .word64
  | driver => .driver

def field : (v : Variable) → Settings → v.kind.Value
  | logLevel, s => s.logLevel
  | redisUrl, s => s.redisUrl
  | queueKey, s => s.queueKey
  | semgrepEnabled, s => s.analyzers.semgrep.enabled
  | semgrepBinary, s => s.analyzers.semgrep.binary
  | semgrepRules, s => s.analyzers.semgrep.rules
  | semgrepSeconds, s => s.analyzers.semgrep.seconds
  | banditEnabled, s => s.analyzers.bandit.enabled
  | banditBinary, s => s.analyzers.bandit.binary
  | banditSeconds, s => s.analyzers.bandit.seconds
  | banditSeverity, s => s.analyzers.bandit.severity
  | banditConfidence, s => s.analyzers.bandit.confidence
  | driver, s => s.sandbox.driver
  | sandboxSeconds, s => s.sandbox.seconds
  | python, s => s.sandbox.python
  | runtime, s => s.sandbox.runtime
  | image, s => s.sandbox.image
  | memoryMb, s => s.sandbox.memoryMb
  | cpuShares, s => s.sandbox.cpuShares
  | cpuSeconds, s => s.sandbox.cpuSeconds
  | fullScore, s => s.scoring.full
  | mixedScore, s => s.scoring.mixed
  | zeroScore, s => s.scoring.zero
  | ceiling, s => s.scoring.ceiling
  | stopSeconds, s => s.stopSeconds

end Variable

namespace Settings

def ofFields (f : ∀ v : Variable, v.kind.Value) (denied : Option (List String)) : Settings where
  logLevel := f .logLevel
  redisUrl := f .redisUrl
  queueKey := f .queueKey
  analyzers := {
    semgrep := {
      enabled := f .semgrepEnabled
      binary := f .semgrepBinary
      rules := f .semgrepRules
      seconds := f .semgrepSeconds }
    bandit := {
      enabled := f .banditEnabled
      binary := f .banditBinary
      seconds := f .banditSeconds
      severity := f .banditSeverity
      confidence := f .banditConfidence } }
  sandbox := {
    driver := f .driver
    seconds := f .sandboxSeconds
    python := f .python
    runtime := f .runtime
    image := f .image
    memoryMb := f .memoryMb
    cpuShares := f .cpuShares
    cpuSeconds := f .cpuSeconds
    denyPatterns := denied }
  scoring := {
    full := f .fullScore
    mixed := f .mixedScore
    zero := f .zeroScore
    ceiling := f .ceiling }
  stopSeconds := f .stopSeconds

end Settings

namespace Variable

variable {v w : Variable} {s t : Settings} {env : Environment}

theorem field_ofFields (v : Variable) (f : ∀ v : Variable, v.kind.Value)
    (denied : Option (List String)) : v.field (.ofFields f denied) = f v := by
  cases v <;> rfl

theorem ofFields_field (s : Settings) :
    Settings.ofFields (fun v => v.field s) s.sandbox.denyPatterns = s := rfl

theorem ext_fields (fields : ∀ v : Variable, v.field s = v.field t)
    (denied : s.sandbox.denyPatterns = t.sandbox.denyPatterns) : s = t := by
  rw [← ofFields_field s, ← ofFields_field t, funext fields, denied]

def put (v : Variable) (s : Settings) (value : v.kind.Value) : Settings :=
  .ofFields (Function.update (fun w => w.field s) v value) s.sandbox.denyPatterns

theorem field_put (v : Variable) (s : Settings) (value : v.kind.Value) :
    v.field (v.put s value) = value := by
  rw [put, field_ofFields, Function.update_self]

theorem field_put_of_ne (other : w ≠ v) (s : Settings) (value : v.kind.Value) :
    w.field (v.put s value) = w.field s := by
  rw [put, field_ofFields, Function.update_of_ne other]

/-- What a text does to its variable is told by the value alone that it is read as. -/
theorem set_eq (v : Variable) (s : Settings) (text : String) :
    v.set s text = (v.kind.read text).map (v.put s) := by
  cases v <;> rfl

/-- From `s` to `t` the setting of `v` gets what the environment writes for it, if anything. -/
def Takes (v : Variable) (env : Environment) (s t : Settings) : Prop :=
  match env.lookup v.name with
  | none => v.field t = v.field s
  | some text => v.kind.Writes text (v.field t)

def Fits (v : Variable) (env : Environment) : Prop :=
  ∀ text, env.lookup v.name = some text → ∃ value, v.kind.Writes text value

/-- The text of `v` is none that writes a value, and the error says so. -/
def Spoils (v : Variable) (env : Environment) (e : SettingsError) : Prop :=
  ∃ text fault, env.lookup v.name = some text ∧ v.kind.read text = .error fault ∧
    e = .invalid v.name fault

theorem Takes.fits (takes : v.Takes env s t) : v.Fits env := by
  intro text given
  rw [Takes, given] at takes
  exact ⟨_, takes⟩

theorem Spoils.not_fits {e : SettingsError} (spoils : v.Spoils env e) : ¬v.Fits env := by
  obtain ⟨text, fault, given, read, -⟩ := spoils
  intro fits
  obtain ⟨value, writes⟩ := fits text given
  rw [ValueKind.read_eq_ok_iff.mpr writes] at read
  cases read

theorem Spoils.unique {e e' : SettingsError} (h : v.Spoils env e) (h' : v.Spoils env e') :
    e = e' := by
  obtain ⟨text, fault, given, read, rfl⟩ := h
  obtain ⟨text', fault', given', read', rfl⟩ := h'
  obtain rfl := Option.some.inj (given.symm.trans given')
  obtain rfl := Except.error.inj (read.symm.trans read')
  rfl

theorem Takes.congr {s' t' : Settings} (takes : v.Takes env s t) (before : v.field s' = v.field s)
    (after : v.field t' = v.field t) : v.Takes env s' t' := by
  unfold Takes at takes ⊢
  rw [before, after]
  exact takes

theorem Takes.unique {t' : Settings} (takes : v.Takes env s t) (takes' : v.Takes env s t') :
    v.field t = v.field t' := by
  unfold Takes at takes takes'
  cases given : env.lookup v.name with
  | none =>
    rw [given] at takes takes'
    exact takes.trans takes'.symm
  | some text =>
    rw [given] at takes takes'
    have read := ValueKind.read_eq_ok_iff.mpr takes
    rw [ValueKind.read_eq_ok_iff.mpr takes'] at read
    exact (Except.ok.inj read).symm

end Variable

namespace Settings

variable {s t : Settings} {env : Environment} {v : Variable} {vs : List Variable}

open Variable (all)

/-- From `s` to `t` the settings of `vs` took what the environment writes for them, and the others
are as they were. -/
structure Overridden (vs : List Variable) (env : Environment) (s t : Settings) : Prop where
  takes : ∀ v ∈ vs, v.Takes env s t
  keeps : ∀ v ∉ vs, v.field t = v.field s
  denied : t.sandbox.denyPatterns = s.sandbox.denyPatterns

theorem overrideOne_cases (env : Environment) (s : Settings) (v : Variable) :
    (∃ t, overrideOne env s v = .ok t ∧ Overridden [v] env s t) ∨
    ∃ e, overrideOne env s v = .error e ∧ v.Spoils env e := by
  unfold overrideOne
  cases given : env.lookup v.name with
  | none =>
    refine .inl ⟨s, rfl, fun w mem => ?_, fun _ _ => rfl, rfl⟩
    obtain rfl := List.mem_singleton.mp mem
    rw [Variable.Takes, given]
  | some text =>
    simp only [Variable.set_eq]
    cases read : v.kind.read text with
    | error fault => exact .inr ⟨_, rfl, text, fault, given, read, rfl⟩
    | ok value =>
      refine .inl ⟨v.put s value, rfl, fun w mem => ?_, fun w mem => ?_, rfl⟩
      · obtain rfl := List.mem_singleton.mp mem
        rw [Variable.Takes, given, Variable.field_put]
        exact ValueKind.read_eq_ok_iff.mp read
      · exact Variable.field_put_of_ne (fun same => mem (List.mem_singleton.mpr same)) s value

theorem Overridden.cons {r : Settings} (fresh : v ∉ vs) (first : Overridden [v] env s r)
    (others : Overridden vs env r t) : Overridden (v :: vs) env s t := by
  have before : ∀ w, w ≠ v → w.field r = w.field s :=
    fun w other => first.keeps w fun mem => other (List.mem_singleton.mp mem)
  refine ⟨fun w mem => ?_, fun w mem => ?_, others.denied.trans first.denied⟩
  · by_cases same : w = v
    · subst same
      exact (first.takes w List.mem_cons_self).congr rfl (others.keeps w fresh)
    · have mem := (List.mem_cons.mp mem).resolve_left same
      exact (others.takes w mem).congr (before w same).symm rfl
  · obtain ⟨other, absent⟩ := List.ne_and_not_mem_of_not_mem_cons mem
    exact (others.keeps w absent).trans (before w other)

/-- The error is about the first of the variables whose text writes no value. -/
inductive Spoiled (env : Environment) (e : SettingsError) : List Variable → Prop
  | here {v : Variable} {vs : List Variable} (spoils : v.Spoils env e) : Spoiled env e (v :: vs)
  | later {v : Variable} {vs : List Variable} (fits : v.Fits env) (spoiled : Spoiled env e vs) :
    Spoiled env e (v :: vs)

theorem foldlM_overrideOne_cases (nodup : vs.Nodup) (env : Environment) (s : Settings) :
    (∃ t, vs.foldlM (overrideOne env) s = .ok t ∧ Overridden vs env s t) ∨
    ∃ e, vs.foldlM (overrideOne env) s = .error e ∧ Spoiled env e vs := by
  -- On the variables: the first either spoils it or leaves settings for the others to start from.
  induction vs generalizing s with
  | nil => exact .inl ⟨s, rfl, by simp, fun _ _ => rfl, rfl⟩
  | cons v vs ih =>
    obtain ⟨fresh, nodup⟩ := List.nodup_cons.mp nodup
    rw [List.foldlM_cons]
    obtain ⟨r, step, first⟩ | ⟨e, step, spoils⟩ := overrideOne_cases env s v
    · rw [step]
      obtain ⟨t, rest, others⟩ | ⟨e, rest, spoiled⟩ := ih nodup r
      · exact .inl ⟨t, rest, first.cons fresh others⟩
      · exact .inr ⟨e, rest, .later (first.takes v List.mem_cons_self).fits spoiled⟩
    · rw [step]
      exact .inr ⟨e, rfl, .here spoils⟩

theorem mem_all (v : Variable) : v ∈ all := by cases v <;> decide

theorem name_injective : Function.Injective Variable.name := by
  have distinct : (all.map Variable.name).Nodup := by decide
  exact fun v w same => List.inj_on_of_nodup_map distinct (mem_all v) (mem_all w) same

theorem override_cases (s : Settings) (env : Environment) :
    (∃ t, s.override env = .ok t ∧ Overridden all env s t) ∨
    ∃ e, s.override env = .error e ∧ Spoiled env e all :=
  foldlM_overrideOne_cases (by decide) env s

theorem Overridden.unique {t' : Settings} (h : Overridden all env s t)
    (h' : Overridden all env s t') : t = t' :=
  Variable.ext_fields (fun v => (h.takes v (mem_all v)).unique (h'.takes v (mem_all v)))
    (h.denied.trans h'.denied.symm)

theorem Spoiled.exists_not_fits {e : SettingsError} (spoiled : Spoiled env e vs) :
    ∃ v : Variable, ¬v.Fits env := by
  induction spoiled with
  | here spoils => exact ⟨_, spoils.not_fits⟩
  | later _ _ ih => exact ih

theorem Spoiled.unique {e e' : SettingsError} (h : Spoiled env e vs) (h' : Spoiled env e' vs) :
    e = e' := by
  induction h with
  | here spoils =>
    cases h' with
    | here spoils' => exact spoils.unique spoils'
    | later fits _ => exact absurd fits spoils.not_fits
  | later fits _ ih =>
    cases h' with
    | here spoils' => exact absurd fits spoils'.not_fits
    | later _ spoiled' => exact ih spoiled'

theorem override_eq_ok_iff : s.override env = .ok t ↔
    (∀ v : Variable, v.Takes env s t) ∧ t.sandbox.denyPatterns = s.sandbox.denyPatterns := by
  constructor
  · intro done
    obtain ⟨r, done', h⟩ | ⟨e, failed, -⟩ := override_cases s env
    · obtain rfl := Except.ok.inj (done.symm.trans done')
      exact ⟨fun v => h.takes v (mem_all v), h.denied⟩
    · rw [done] at failed
      cases failed
  · rintro ⟨takes, denied⟩
    have told : Overridden all env s t :=
      ⟨fun v _ => takes v, fun v absent => absurd (mem_all v) absent, denied⟩
    obtain ⟨r, done, h⟩ | ⟨e, -, spoiled⟩ := override_cases s env
    · rw [done, h.unique told]
    · obtain ⟨v, unfit⟩ := spoiled.exists_not_fits
      exact absurd (takes v).fits unfit

theorem override_eq_error_iff {e : SettingsError} :
    s.override env = .error e ↔ Spoiled env e all := by
  obtain ⟨t, done, h⟩ | ⟨e', failed, spoiled'⟩ := override_cases s env
  · rw [done]
    refine ⟨nofun, fun spoiled => ?_⟩
    obtain ⟨v, unfit⟩ := spoiled.exists_not_fits
    exact absurd (h.takes v (mem_all v)).fits unfit
  · rw [failed]
    refine ⟨fun same => Except.error.inj same ▸ spoiled', fun spoiled => ?_⟩
    rw [spoiled'.unique spoiled]

theorem exists_override_iff : (∃ t, s.override env = .ok t) ↔ ∀ v : Variable, v.Fits env := by
  constructor
  · rintro ⟨t, done⟩ v
    exact ((override_eq_ok_iff.mp done).1 v).fits
  · intro fit
    obtain ⟨t, done, -⟩ | ⟨e, -, spoiled⟩ := override_cases s env
    · exact ⟨t, done⟩
    · obtain ⟨v, unfit⟩ := spoiled.exists_not_fits
      exact absurd (fit v) unfit

theorem field_withDenied (v : Variable) (t : Settings) (denied : Option (List String)) :
    v.field { t with sandbox.denyPatterns := denied } = v.field t := by
  cases v <;> rfl

/-- Two environments one after the other are one environment in which the second has the say. -/
theorem override_union {t₁ : Settings} {first second union : Environment}
    (done : s.override first = .ok t₁) (fit : ∀ v : Variable, v.Fits second)
    (looks : ∀ name, union.lookup name = (second.lookup name).or (first.lookup name)) :
    ∃ t, t₁.override second = .ok t ∧ s.override union = .ok t := by
  obtain ⟨took, denied⟩ := override_eq_ok_iff.mp done
  obtain ⟨t, done'⟩ := exists_override_iff.mpr fit
  obtain ⟨took', denied'⟩ := override_eq_ok_iff.mp done'
  refine ⟨t, done', override_eq_ok_iff.mpr ⟨fun v => ?_, denied'.trans denied⟩⟩
  have before := took v
  have after := took' v
  unfold Variable.Takes at before after ⊢
  rw [looks]
  cases given : second.lookup v.name with
  | some text =>
    rw [given] at after
    exact after
  | none =>
    rw [given] at after
    rw [after]
    exact before

/-- An environment that sets every variable leaves nothing of the settings before but the denied
patterns. -/
theorem override_of_all_set (set : ∀ v : Variable, (env.lookup v.name).isSome = true)
    (s s' : Settings) : s'.override env = (s.override env).map fun t =>
      { t with sandbox.denyPatterns := s'.sandbox.denyPatterns } := by
  cases done : s.override env with
  | error e => exact override_eq_error_iff.mpr (override_eq_error_iff.mp done)
  | ok t =>
    refine override_eq_ok_iff.mpr ⟨fun v => ?_, rfl⟩
    have takes := (override_eq_ok_iff.mp done).1 v
    obtain ⟨text, given⟩ := Option.isSome_iff_exists.mp (set v)
    unfold Variable.Takes at takes ⊢
    rw [given] at takes ⊢
    rw [field_withDenied]
    exact takes

/-- Every variable has a name of its own. An environment succeeds exactly if all numbers, switches
and drivers in it can be read. Then each setting is what its own variable writes, if that is set,
and the denied patterns and all that is not set stay. So environments add up, and a full one
determines all but the denied patterns. Otherwise the first variable that cannot be read is the
error, whatever else is set. -/
theorem overrides_field_by_field :
    Function.Injective Variable.name ∧
    (∀ (s : Settings) env, (∃ t, s.override env = .ok t) ↔
      ∀ v : Variable, v.kind.isParsed = true → v.Fits env) ∧
    (∀ (s t : Settings) env, s.override env = .ok t ↔ (∀ v : Variable, v.Takes env s t) ∧
      t.sandbox.denyPatterns = s.sandbox.denyPatterns) ∧
    (∀ (s : Settings) env e, s.override env = .error e ↔ Spoiled env e all) ∧
    (∀ (s t₁ t₂ : Settings) first second union, s.override first = .ok t₁ →
      s.override second = .ok t₂ →
      (∀ name, union.lookup name = (second.lookup name).or (first.lookup name)) →
      ∃ t, t₁.override second = .ok t ∧ s.override union = .ok t) ∧
    (∀ (s s' : Settings) env, (∀ v : Variable, (env.lookup v.name).isSome = true) →
      s'.override env = (s.override env).map fun t =>
        { t with sandbox.denyPatterns := s'.sandbox.denyPatterns }) := by
  refine ⟨name_injective, fun s env => ?_, fun s t env => override_eq_ok_iff,
    fun s env e => override_eq_error_iff,
    fun s t₁ t₂ first second union done done' looks => ?_,
    fun s s' env set => override_of_all_set set s s'⟩
  · rw [exists_override_iff]
    refine ⟨fun fit v _ => fit v, fun fit v => ?_⟩
    cases parsed : v.kind.isParsed with
    | true => exact fit v parsed
    | false => exact fun text _ => ValueKind.exists_writes_of_not_isParsed parsed text
  · exact override_union done (exists_override_iff.mp ⟨t₂, done'⟩) looks

def sampleText : ValueKind → String
  | .text => " as it is "
  | .list => "a.yml, , b c.yml,"
  | .switch => " true"
  | .word32 | .word64 => "+007 "
  | .driver => "Docker"

theorem overrides_field_by_field_full :
    let first : Environment :=
      [("SCORING_ZERO_SCORE", "5"), ("SCORING_SEMGREP_RULES", "a.yml, ,b.yml")]
    let second : Environment := [("SCORING_SANDBOX_DRIVER", "none"), ("SCORING_ZERO_SCORE", " +7")]
    let full : Environment := all.map fun v => (v.name, sampleText v.kind)
    let s : Settings := {}
    let s' : Settings := { sandbox := { denyPatterns := some ["x"] }, stopSeconds := 9 }
    (∃ t₁, s.override first = .ok t₁ ∧ ∃ t, t₁.override second = .ok t ∧
      s.override (second ++ first) = .ok t) ∧
    s'.override full = (s.override full).map fun t =>
      { t with sandbox.denyPatterns := some ["x"] } := by
  intro first second full s s'
  obtain ⟨-, -, -, -, unions, alls⟩ := overrides_field_by_field
  have done : ∃ t₁, s.override first = .ok t₁ := ⟨_, rfl⟩
  have done' : ∃ t₂, s.override second = .ok t₂ := ⟨_, rfl⟩
  obtain ⟨t₁, done⟩ := done
  obtain ⟨t₂, done'⟩ := done'
  refine ⟨⟨t₁, done, ?_⟩, alls s s' full fun v => by cases v <;> rfl⟩
  exact unions s t₁ t₂ first second (second ++ first) done done' fun name => List.lookup_append

end Settings

end FixGrader
