import FixGrader.Proofs.Submission.Document
import Mathlib.Data.List.TakeWhile

namespace FixGrader

namespace Instant

/-- A time of the calendar and of a clock, in any year that a date may have. -/
structure WellFormed (t : Instant) : Prop where
  date : t.date.isValid = true
  minute : t.minute < 1440
  second : t.second ≤ 60
  nano : t.nano < 1000000000

def HasPlainYear (t : Instant) : Prop := 0 ≤ t.date.year ∧ t.date.year ≤ 9999

variable {s rest : List Char} {t : Instant}

theorem WellFormed.ordinary (h : t.WellFormed) (year : t.HasPlainYear) : t.Ordinary :=
  ⟨h.date, year, h.minute, h.second, h.nano⟩

theorem digitsValue_lt {digits : List Char} (all : ∀ c ∈ digits, c.isDigit = true) (n : Nat) :
    Json.digitsValue n digits < (n + 1) * 10 ^ digits.length := by
  -- On the digits, behind any number: one more digit makes the bound ten times what it was.
  induction digits generalizing n with
  | nil => simp [Json.digitsValue]
  | cons c digits ih =>
    obtain ⟨first, others⟩ := List.forall_mem_cons.mp all
    have digit : c.toNat - '0'.toNat < 10 := by
      have range : 48 ≤ c.toNat ∧ c.toNat ≤ 57 := by
        simpa [Char.isDigit, UInt32.le_iff_toNat_le] using first
      have zero : '0'.toNat = 48 := rfl
      omega
    calc Json.digitsValue n (c :: digits)
      _ = Json.digitsValue (n * 10 + (c.toNat - '0'.toNat)) digits := rfl
      _ < (n * 10 + (c.toNat - '0'.toNat) + 1) * 10 ^ digits.length := ih others _
      _ ≤ (n + 1) * 10 * 10 ^ digits.length := Nat.mul_le_mul_right _ (by omega)
      _ = (n + 1) * 10 ^ (c :: digits).length := by
        rw [List.length_cons, Nat.pow_succ', Nat.mul_assoc]

theorem nano_lt {nano : Nat} (read : readNano s = some (nano, rest)) : nano < 1000000000 := by
  unfold readNano at read
  split at read
  next behind =>
    dsimp only at read
    split at read
    · cases read
    · obtain ⟨rfl, -⟩ := Prod.mk.inj (Option.some.inj read)
      let digits := (behind.take 9).takeWhile Char.isDigit
      have few : digits.length ≤ 9 :=
        (List.takeWhile_prefix _).length_le.trans (by simp)
      have value : Json.digitsValue 0 digits < (0 + 1) * 10 ^ digits.length :=
        digitsValue_lt (fun c => List.mem_takeWhile_imp) 0
      calc Json.digitsValue 0 digits * 10 ^ (9 - digits.length)
        _ < 10 ^ digits.length * 10 ^ (9 - digits.length) :=
          Nat.mul_lt_mul_of_pos_right (by simpa using value) (Nat.pow_pos (by omega))
        _ = 1000000000 := by rw [← Nat.pow_add, Nat.add_sub_cancel' few]
  next =>
    obtain ⟨rfl, -⟩ := Prod.mk.inj (Option.some.inj read)
    omega

theorem readOffset_lt {offset : Int} (read : readOffset s = some (offset, rest)) :
    -1440 < offset ∧ offset < 1440 := by
  have digits : ∀ {sign : Int} {s : List Char}, sign = 1 ∨ sign = -1 →
      readOffset.readDigits sign s = some (offset, rest) → -1440 < offset ∧ offset < 1440 := by
    intro sign s unit read
    simp only [readOffset.readDigits] at read
    split at read
    · split at read
      next small =>
        obtain ⟨rfl, -⟩ := Prod.mk.inj (Option.some.inj read)
        simp only [Bool.and_eq_true, decide_eq_true_eq] at small
        obtain rfl | rfl := unit
        · omega
        · omega
      next => cases read
    · cases read
  unfold readOffset at read
  split at read
  · obtain ⟨rfl, -⟩ := Prod.mk.inj (Option.some.inj read)
    omega
  · obtain ⟨rfl, -⟩ := Prod.mk.inj (Option.some.inj read)
    omega
  · exact digits (.inl rfl) read
  · exact digits (.inr rfl) read
  · exact digits (.inr rfl) read
  · split at read
    · obtain ⟨rfl, -⟩ := Prod.mk.inj (Option.some.inj read)
      omega
    · cases read

theorem readTime_bounds {date : Date} (read : readTime date s = some (t, rest)) :
    t.minute < 1440 ∧ t.second ≤ 60 ∧ t.nano < 1000000000 := by
  simp only [readTime, Option.bind_eq_bind, Option.bind_eq_some_iff, Prod.exists] at read
  obtain ⟨hour, _, _, _, _, minute, _, _, _, _, second, _, _, nano, _, fraction, read⟩ := read
  split at read
  next within =>
    obtain ⟨rfl, -⟩ := Prod.mk.inj (Option.some.inj read)
    simp only [Bool.and_eq_true, decide_eq_true_eq] at within
    exact ⟨by simp only; omega, within.2, nano_lt fraction⟩
  next => cases read

theorem earlier_bounds {r : Instant} {offset : Int} (minute : t.minute < 1440)
    (small : -1440 < offset ∧ offset < 1440) (moved : t.earlier offset = some r) :
    r.date.isValid = true ∧ r.minute < 1440 ∧ r.second = t.second ∧ r.nano = t.nano := by
  simp only [earlier, Option.ite_none_right_eq_some, Option.some.injEq] at moved
  obtain ⟨valid, rfl⟩ := moved
  refine ⟨valid, ?_⟩
  split
  · exact ⟨by simp only; omega, rfl, rfl⟩
  · split
    · exact ⟨by simp only; omega, rfl, rfl⟩
    · exact ⟨by simp only; omega, rfl, rfl⟩

theorem wellFormed_of_clock {date : Date} (read : ((readTime date s).bind fun r =>
    (readOffset (Text.trimLeft r.2)).bind fun o =>
      if (Text.trimLeft o.2).isEmpty = true then r.1.earlier o.1 else none) = some t) :
    t.WellFormed := by
  simp only [Option.bind_eq_some_iff, Prod.exists, Option.ite_none_right_eq_some] at read
  obtain ⟨local_, _, time, offset, _, zone, -, read⟩ := read
  obtain ⟨minute, second, nano⟩ := readTime_bounds time
  obtain ⟨valid, moved, sameSecond, sameNano⟩ := earlier_bounds minute (readOffset_lt zone) read
  exact ⟨valid, moved, sameSecond ▸ second, sameNano ▸ nano⟩

theorem wellFormed_of_parse? {text : String} (read : parse? text = some t) : t.WellFormed := by
  obtain ⟨⟨date, behind⟩, -, read⟩ := Option.bind_eq_some_iff.mp read
  dsimp only at read
  split at read
  · exact wellFormed_of_clock read
  · exact wellFormed_of_clock read
  · exact wellFormed_of_clock read
  · cases read

end Instant

namespace Submission

def recode? (text : String) : Option String := (decode? text).map encode

variable {s : Submission} {text : String}

theorem wellFormed_of_get? {fs : Json.Fields} {name : String} {t : Instant}
    (read : fs.get? name instant? = some t) : t.WellFormed := by
  obtain ⟨_, -, read⟩ := Option.bind_eq_some_iff.mp read
  obtain ⟨_, -, read⟩ := Option.bind_eq_some_iff.mp read
  exact Instant.wellFormed_of_parse? read

theorem wellFormed_of_decode? (read : decode? text = some s) :
    s.createdAt.WellFormed ∧ s.updatedAt.WellFormed := by
  obtain ⟨_, -, record⟩ := Option.bind_eq_some_iff.mp read
  simp only [ofJson?, Option.bind_eq_bind, Option.bind_eq_some_iff, Option.some.injEq] at record
  obtain ⟨fs, -, _, -, _, -, _, -, _, -, _, -, _, -, _, -, _, -, _, created, _, updated, rfl⟩ :=
    record
  exact ⟨wellFormed_of_get? created, wellFormed_of_get? updated⟩

/-- A record with dates in years of four digits is read back from its document as it is, whatever
its texts, score, issues and status are. What is read from any text with such dates stays the same
when it is written and read again, so a document that was written once is written as it is. -/
theorem document_round_trips :
    (∀ s : Submission, s.createdAt.WellFormed → s.createdAt.HasPlainYear →
      s.updatedAt.WellFormed → s.updatedAt.HasPlainYear → decode? s.encode = some s) ∧
    (∀ text s, decode? text = some s → s.createdAt.HasPlainYear → s.updatedAt.HasPlainYear →
      decode? s.encode = some s ∧
      ∃ document, recode? text = some document ∧ recode? document = some document) := by
  constructor
  · intro s created createdYear updated updatedYear
    exact decode?_encode ⟨created.ordinary createdYear, updated.ordinary updatedYear⟩
  · intro text s read createdYear updatedYear
    obtain ⟨created, updated⟩ := wellFormed_of_decode? read
    have again : decode? s.encode = some s :=
      decode?_encode ⟨created.ordinary createdYear, updated.ordinary updatedYear⟩
    exact ⟨again, s.encode, by rw [recode?, read]; rfl, by rw [recode?, again]; rfl⟩

/-- The text is an array with an id without hyphens, escapes, a date that its offset moves to a leap
day and one that shows a leap second. -/
theorem document_round_trips_offset :
    let plain : Submission := ⟨.nil, "\x00\"\\", some "", "é😀", .error, none, some "",
      [⟨"a", "", "b"⟩], ⟨⟨9999, 12, 31⟩, 1439, 60, 999999999⟩, ⟨⟨0, 2, 29⟩, 0, 0, 1000⟩⟩
    let text := "[\"0000000000004000800000000000000A\", \"sqli\\u005f001\", null, " ++
      "\"\\ud83d\\ude00\", \"failed\", 4294967295, \"\", [[\"semgrep\", \"m\", \"HIGH\"]], " ++
      "\"2020-02-28t23:30:59.5-00:30\", \"2016-12-31 23:59:60z\"]"
    let read : Submission := ⟨⟨0x4000800000000000000A⟩, "sqli_001", none, "😀", .failed,
      some 4294967295, some "", [⟨"semgrep", "m", "HIGH"⟩],
      ⟨⟨2020, 2, 29⟩, 0, 59, 500000000⟩, ⟨⟨2016, 12, 31⟩, 1439, 60, 0⟩⟩
    decode? plain.encode = some plain ∧
    decode? text = some read ∧ decode? read.encode = some read ∧
    ∃ document, recode? text = some document ∧ recode? document = some document := by
  intro plain text read
  have decoded : decode? text = some read := by decide +kernel
  have written := document_round_trips.1 plain
    ⟨by decide, by decide, by decide, by decide⟩ (by constructor <;> decide)
    ⟨by decide, by decide, by decide, by decide⟩ (by constructor <;> decide)
  have rewritten := document_round_trips.2 text read decoded
    (by constructor <;> decide) (by constructor <;> decide)
  exact ⟨written, decoded, rewritten⟩

end Submission

end FixGrader
