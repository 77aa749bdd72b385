import FixGrader.Proofs.Json.Reading
import FixGrader.Submission.Basic

namespace FixGrader

namespace Uuid

theorem digitsValue?_append (value : Nat) (front back : List Char) :
    digitsValue? value (front ++ back) = (digitsValue? value front).bind (digitsValue? · back) := by
  induction front generalizing value with
  | nil => rfl
  | cons c front ih =>
    simp only [List.cons_append, digitsValue?]
    cases Json.hexDigit? c with
    | none => rfl
    | some d => exact ih _

theorem digitsValue?_digits (n value : Nat) :
    digitsValue? 0 (digits n value) = some (value % 16 ^ n) := by
  induction n generalizing value with
  | zero => simp [digits, digitsValue?, Nat.mod_one]
  | succ n ih =>
    have digit := Json.hexDigit?_hexChar (Nat.mod_lt value (by omega : 16 > 0))
    rw [digits, digitsValue?_append, ih]
    simp only [Option.bind_some, digitsValue?, digit, bind]
    rw [Nat.pow_succ', Nat.mod_mul]
    congr 1
    omega

theorem length_digits (n value : Nat) : (digits n value).length = n := by
  induction n generalizing value with
  | zero => rfl
  | succ n ih => simp [digits, ih]

theorem unhyphenate?_hyphenate (sizes : List Nat) {s : List Char} (fits : s.length = sizes.sum) :
    unhyphenate? sizes (hyphenate sizes s) = some s := by
  induction sizes generalizing s with
  | nil => simp_all [hyphenate, unhyphenate?]
  | cons n sizes ih =>
    cases sizes with
    | nil => simp_all [hyphenate, unhyphenate?]
    | cons m sizes =>
      rw [List.sum_cons] at fits
      have rest := ih (s := s.drop n) (by simp only [List.length_drop]; omega)
      have front : (s.take n).length = n := by simp only [List.length_take]; omega
      rw [hyphenate, unhyphenate?, List.drop_left' front, List.take_left' front]
      · simp only [rest, Option.map_some, List.take_append_drop]
      all_goals simp

theorem length_hyphenate (sizes : List Nat) {s : List Char} (fits : s.length = sizes.sum) :
    (hyphenate sizes s).length = s.length + (sizes.length - 1) := by
  induction sizes generalizing s with
  | nil => rfl
  | cons n sizes ih =>
    cases sizes with
    | nil => rfl
    | cons m sizes =>
      rw [List.sum_cons] at fits
      have rest := ih (s := s.drop n) (by simp only [List.length_drop]; omega)
      simp only [hyphenate, List.length_append, List.length_take, List.length_cons, rest,
        List.length_drop] at rest ⊢
      omega

theorem length_digits_groups (value : Nat) : (digits 32 value).length = groups.sum :=
  length_digits 32 value

theorem length_chars (u : Uuid) : u.chars.length = 36 := by
  rw [chars, length_hyphenate groups (length_digits_groups _), length_digits]
  rfl

theorem parse?_toString (u : Uuid) : parse? u.toString = some u := by
  have length := u.length_chars
  have plain : unwrap u.chars = u.chars := by simp [unwrap, length]
  have ungrouped : unhyphenate? groups u.chars = some (digits 32 u.bits.toNat) :=
    unhyphenate?_hyphenate groups (length_digits_groups _)
  have value : digitsValue? 0 (digits 32 u.bits.toNat) = some u.bits.toNat := by
    rw [digitsValue?_digits, Nat.mod_eq_of_lt (lt_of_lt_of_eq u.bits.isLt (by norm_num))]
  simp [parse?, toString, ofChars?, length, plain, ungrouped, value]

theorem toString_injective : Function.Injective toString := by
  intro u v same
  have read := parse?_toString u
  rw [same, parse?_toString] at read
  exact (Option.some.inj read).symm

end Uuid

namespace Instant

/-- A time that a clock shows, also during a leap second, in a year of four digits. -/
structure Ordinary (t : Instant) : Prop where
  date : t.date.isValid = true
  year : 0 ≤ t.date.year ∧ t.date.year ≤ 9999
  minute : t.minute < 1440
  second : t.second ≤ 60
  nano : t.nano < 1000000000

theorem isDigit_digit (d : Nat) : (Char.ofNat ('0'.toNat + d % 10)).isDigit = true := by
  have all : ∀ k : Fin 10, (Char.ofNat ('0'.toNat + k.val)).isDigit = true := by decide
  exact all ⟨d % 10, Nat.mod_lt d (by omega)⟩

theorem toNat_digit (d : Nat) : (Char.ofNat ('0'.toNat + d % 10)).toNat = '0'.toNat + d % 10 := by
  have all : ∀ k : Fin 10, (Char.ofNat ('0'.toNat + k.val)).toNat = '0'.toNat + k.val := by decide
  exact all ⟨d % 10, Nat.mod_lt d (by omega)⟩

theorem length_padded (n value : Nat) : (padded n value).length = n := by
  induction n generalizing value with
  | zero => rfl
  | succ n ih => simp [padded, ih]

theorem isDigit_of_mem_padded {n value : Nat} {c : Char} (mem : c ∈ padded n value) :
    c.isDigit = true := by
  induction n generalizing value with
  | zero => cases mem
  | succ n ih =>
    obtain before | last := List.mem_append.mp mem
    · exact ih before
    · rw [List.mem_singleton.mp last]
      exact isDigit_digit value

theorem digitsValue_padded (n value : Nat) :
    Json.digitsValue 0 (padded n value) = value % 10 ^ n := by
  induction n generalizing value with
  | zero => simp [padded, Json.digitsValue, Nat.mod_one]
  | succ n ih =>
    have before : List.foldl (fun m (c : Char) => m * 10 + (c.toNat - '0'.toNat)) 0
        (padded n (value / 10)) = value / 10 % 10 ^ n := ih (value / 10)
    rw [padded, Json.digitsValue, List.foldl_append, before, List.foldl_cons, List.foldl_nil,
      toNat_digit, Nat.pow_succ', Nat.mod_mul]
    omega

theorem isBlank_of_isDigit {c : Char} (digit : c.isDigit = true) : Text.isBlank c = false := by
  have range : 48 ≤ c.toNat ∧ c.toNat ≤ 57 := by
    simpa [Char.isDigit, UInt32.le_iff_toNat_le] using digit
  simp only [Text.isBlank, Bool.or_eq_false_iff, Bool.and_eq_false_iff, decide_eq_false_iff_not,
    beq_eq_false_iff_ne]
  omega

theorem trimLeft_cons {c : Char} (full : Text.isBlank c = false) (s : List Char) :
    Text.trimLeft (c :: s) = c :: s := by
  simp [Text.trimLeft, full]

theorem trimLeft_padded (n value : Nat) (rest : List Char) :
    Text.trimLeft (padded (n + 1) value ++ rest) = padded (n + 1) value ++ rest := by
  have length := length_padded (n + 1) value
  cases written : padded (n + 1) value with
  | nil => simp [written] at length
  | cons c tail =>
    have mem : c ∈ padded (n + 1) value := by simp [written]
    exact trimLeft_cons (isBlank_of_isDigit (isDigit_of_mem_padded mem)) _

theorem isEmpty_padded (n value : Nat) : (padded (n + 1) value).isEmpty = false := by
  have length := length_padded (n + 1) value
  rw [List.isEmpty_eq_false_iff, ← List.length_pos_iff, length]
  omega

/-- A field of a fixed width is read whatever follows it. -/
theorem readField_padded (n value : Nat) (rest : List Char) :
    readField (n + 1) (padded (n + 1) value ++ rest) = some (value % 10 ^ (n + 1), rest) := by
  have digits : ((padded (n + 1) value ++ rest).take (n + 1)).takeWhile Char.isDigit =
      padded (n + 1) value := by
    have all : ∀ c ∈ padded (n + 1) value, c.isDigit = true := fun c => isDigit_of_mem_padded
    have stops : ∀ c ∈ ([] : List Char).head?, c.isDigit = false := by simp
    rw [List.take_left' (length_padded _ _)]
    simpa using Json.takeWhile_append_of_stops all stops
  simp only [readField, trimLeft_padded, digits, isEmpty_padded, digitsValue_padded, List.drop_left]
  rfl

theorem readYear_writeYear {year : Int} (four : 0 ≤ year ∧ year ≤ 9999) (rest : List Char) :
    readYear (writeYear year ++ rest) = some (year, rest) := by
  have written : writeYear year = padded 4 year.natAbs := by
    have small : year.natAbs < 10000 := by omega
    have positive : ¬year < 0 := by omega
    have short : ¬9999 < year := by omega
    simp only [writeYear, small, positive, short, if_true, if_false]
  have length := length_padded 4 year.natAbs
  have field := readField_padded 3 year.natAbs rest
  rw [written]
  unfold readYear
  rw [trimLeft_padded]
  cases digits : padded 4 year.natAbs with
  | nil => simp [digits] at length
  | cons c tail =>
    have mem : c ∈ padded 4 year.natAbs := by simp [digits]
    have digit := isDigit_of_mem_padded mem
    rw [digits] at field
    split
    next minus =>
      cases minus
      cases digit
    next plus =>
      cases plus
      cases digit
    next =>
      rw [field]
      have same : ((year.natAbs % 10 ^ 4 : Nat) : Int) = year := by omega
      simp only [Option.map_some, same]

theorem readMark_cons {c : Char} (full : Text.isBlank c = false) (rest : List Char) :
    readMark c (c :: rest) = some rest := by
  simp [readMark, trimLeft_cons full]

theorem readNano_padded {n : Nat} (few : n < 9) (value : Nat) {rest : List Char}
    (stops : ∀ c ∈ rest.head?, c.isDigit = false) :
    readNano ('.' :: (padded (n + 1) value ++ rest)) =
      some (value % 10 ^ (n + 1) * 10 ^ (8 - n), rest) := by
  have length := length_padded (n + 1) value
  have digits : ((padded (n + 1) value ++ rest).take 9).takeWhile Char.isDigit =
      padded (n + 1) value := by
    have all : ∀ c ∈ padded (n + 1) value, c.isDigit = true := fun c => isDigit_of_mem_padded
    have stops' : ∀ c ∈ (rest.take (8 - n)).head?, c.isDigit = false := by
      intro c hc
      rw [List.head?_take] at hc
      split at hc
      · cases hc
      · exact stops c hc
    rw [List.take_append, List.take_of_length_le (by omega), length,
      show 9 - (n + 1) = 8 - n by omega]
    exact Json.takeWhile_append_of_stops all stops'
  have behind : rest.dropWhile Char.isDigit = rest := Json.dropWhile_of_stops stops
  simp [readNano, digits, isEmpty_padded, digitsValue_padded, behind, length]

/-- A fraction is written with as few digits as lose nothing. -/
theorem readNano_writeFraction {nano : Nat} (small : nano < 1000000000) (rest : List Char) :
    readNano (writeFraction nano ++ 'Z' :: rest) = some (nano, 'Z' :: rest) := by
  have stops : ∀ c ∈ ('Z' :: rest).head?, c.isDigit = false := by simp
  unfold writeFraction
  split
  next zero =>
    rw [zero]
    rfl
  next =>
    split
    next =>
      rw [List.cons_append, readNano_padded (by omega) _ stops]
      have value : nano / 1000000 % 10 ^ (2 + 1) * 10 ^ (8 - 2) = nano := by omega
      rw [value]
    next =>
      split
      next =>
        rw [List.cons_append, readNano_padded (by omega) _ stops]
        have value : nano / 1000 % 10 ^ (5 + 1) * 10 ^ (8 - 5) = nano := by omega
        rw [value]
      next =>
        rw [List.cons_append, readNano_padded (by omega) _ stops]
        have value : nano % 10 ^ (8 + 1) * 10 ^ (8 - 8) = nano := by omega
        rw [value]

variable {t : Instant}

theorem valid_le {d : Date} (valid : d.isValid = true) : d.month ≤ 12 ∧ d.day ≤ 31 := by
  have days : Date.daysIn d.year d.month ≤ 31 := by
    unfold Date.daysIn
    split
    · split <;> omega
    · split <;> omega
  simp only [Date.isValid, Bool.and_eq_true, decide_eq_true_eq] at valid
  omega

theorem readDate_write (h : t.Ordinary) (rest : List Char) :
    readDate (writeYear t.date.year ++ '-' :: (padded 2 t.date.month ++ '-' ::
      (padded 2 t.date.day ++ rest))) = some (t.date, rest) := by
  have valid := h.date
  obtain ⟨months, days⟩ := valid_le valid
  have dash : ∀ s, readMark '-' ('-' :: s) = some s := readMark_cons rfl
  have month : t.date.month % 10 ^ (1 + 1) = t.date.month := by omega
  have day : t.date.day % 10 ^ (1 + 1) = t.date.day := by omega
  simp only [readDate, readYear_writeYear h.year, dash, readField_padded, month, day, bind,
    Option.bind]
  exact if_pos valid

theorem readTime_write (h : t.Ordinary) (rest : List Char) :
    readTime t.date (padded 2 (t.minute / 60) ++ ':' :: (padded 2 (t.minute % 60) ++
      ':' :: (padded 2 t.second ++ (writeFraction t.nano ++ 'Z' :: rest)))) =
        some (t, 'Z' :: rest) := by
  obtain ⟨_, _, minutes, seconds, nanos⟩ := h
  have colon : ∀ s, readMark ':' (':' :: s) = some s := readMark_cons rfl
  have hour : t.minute / 60 % 10 ^ (1 + 1) = t.minute / 60 := by omega
  have minute : t.minute % 60 % 10 ^ (1 + 1) = t.minute % 60 := by omega
  have second : t.second % 10 ^ (1 + 1) = t.second := by omega
  have inDay : (t.minute / 60 < 24 && t.minute % 60 < 60 && t.second ≤ 60) = true := by
    simp only [Bool.and_eq_true, decide_eq_true_eq]
    omega
  have whole : t.minute / 60 * 60 + t.minute % 60 = t.minute := by omega
  simp only [readTime, readField_padded, colon, hour, minute, second,
    readNano_writeFraction nanos, bind, Option.bind, inDay, whole, if_true]

theorem earlier_zero (h : t.Ordinary) : t.earlier 0 = some t := by
  have late : ¬(t.minute : Int) < 0 := by omega
  have early : ¬1440 ≤ (t.minute : Int) := by have := h.minute; omega
  simp [earlier, late, early, h.date]

theorem parse?_toString (h : t.Ordinary) : parse? t.toString = some t := by
  have date := readDate_write h ('T' :: (padded 2 (t.minute / 60) ++ ':' ::
    (padded 2 (t.minute % 60) ++ ':' :: (padded 2 t.second ++ (writeFraction t.nano ++ ['Z'])))))
  have zone : Text.trimLeft ['Z'] = ['Z'] := trimLeft_cons rfl []
  simp only [parse?, toString, String.toList_ofList, chars, List.append_assoc, List.cons_append,
    ofChars?, date, readTime_write h, bind, Option.bind, zone, readOffset]
  exact earlier_zero h

end Instant

end FixGrader
