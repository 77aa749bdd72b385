import FixGrader.Proofs.Tool.Staging
import FixGrader.Tool.Machine

namespace FixGrader

/-- What comes of a launch that is given `limit` milliseconds. Of a program whose time is over, no
output is left. -/
inductive Reply.Within (limit : Nat) : Reply → Prop
  | unstarted (failure : Failure) : Within limit ⟨.error failure, 0⟩
  | exited {code : Int} {out err : String} {millis : Nat} (inTime : millis < limit) :
      Within limit ⟨.ok ⟨.exited code, out, err⟩, millis⟩
  | signaled {signal : Int} {out err : String} {millis : Nat} :
      Within limit ⟨.ok ⟨.signaled signal, out, err⟩, millis⟩
  | late : Within limit ⟨.ok ⟨.timedOut, "", ""⟩, limit⟩

namespace Machine

variable (m : Machine) (uuid : Nat → String)

theorem finish_within (a : Allowance) (ended : Except Shell.Halt Unit) (s : Shell.Session) :
    (finish a ended s).Within a.millis := by
  simp only [finish]
  split
  · exact .late
  · exact .signaled
  · split
    · split
      · exact .signaled
      · exact .late
    · exact .late
  · split
    · exact .late
    · exact .signaled
  all_goals
    split
    · exact .late
    · exact .exited (by omega)

/-- A program of the machine that no signal ends comes to its end before its time is over, or is
stopped when it is. -/
theorem reply_within (past : List Launch) (c : Command) (l : Limits) :
    ((m.host uuid).reply past c l).Within (l.seconds.toNat * 1000) := by
  change ((m.withWorkDir c).run c ⟨l.seconds.toNat * 1000, l.memoryMb, l.cpuSeconds⟩).Within _
  unfold run
  split
  · exact .unstarted _
  · exact finish_within ⟨l.seconds.toNat * 1000, l.memoryMb, l.cpuSeconds⟩ _ _

theorem millis_lt_of_isSuccess {past : List Launch} {c : Command} {l : Limits} {o : RunOutcome}
    (result : ((m.host uuid).reply past c l).result = .ok o) (success : o.isSuccess = true) :
    ((m.host uuid).reply past c l).millis < l.seconds.toNat * 1000 := by
  have within := m.reply_within uuid past c l
  generalize (m.host uuid).reply past c l = reply at within result
  cases within with
  | exited inTime => exact inTime
  | unstarted => cases result
  | signaled | late =>
    cases result
    simp [RunOutcome.isSuccess, RunOutcome.exitCode?] at success

theorem ofDigitChars_suffix (n : Nat) : Nat.ofDigitChars 10 (suffix n).toList 0 = n := by
  have zeros (k : Nat) (digits : List Char) :
      Nat.ofDigitChars 10 (List.replicate k '0' ++ digits) 0 = Nat.ofDigitChars 10 digits 0 := by
    induction k with
    | zero => rfl
    | succ k ih => simpa [List.replicate_succ, Nat.ofDigitChars_cons] using ih
  simp [suffix, zeros]

theorem dirName_injective (tag : String) : Function.Injective ((m.host uuid).dirName tag) := by
  intro n n' same
  have named (n : Nat) : (m.host uuid).dirName tag n = "/tmp" ++ "/" ++ tag ++ suffix n := rfl
  have digits : (suffix n).toList = (suffix n').toList := by
    rw [named, named] at same
    simpa using congrArg String.toList same
  calc
    n = Nat.ofDigitChars 10 (suffix n).toList 0 := (ofDigitChars_suffix n).symm
    _ = Nat.ofDigitChars 10 (suffix n').toList 0 := by rw [digits]
    _ = n' := ofDigitChars_suffix n'

theorem locate_absolute {program path : String} (found : m.locate program = some path) :
    path.startsWith "/" = true := by
  simp only [locate] at found
  -- Whichever name is looked up, what is found for it is completed in the same way.
  repeat' split at found
  all_goals cases found
  all_goals first | assumption | simp

end Machine

end FixGrader
