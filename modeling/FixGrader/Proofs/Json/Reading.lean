import FixGrader.Json.Reader
import FixGrader.Json.Writer
import Mathlib.Data.List.Basic
import Mathlib.Data.List.TakeDrop
import Mathlib.Data.Nat.Digits.Defs

namespace FixGrader.Json

theorem hexDigit?_hexChar {n : Nat} (small : n < 16) : hexDigit? (hexChar n) = some n := by
  have all : ∀ d : Fin 16, hexDigit? (hexChar d) = some d.val := by decide
  exact all ⟨n, small⟩

/-- The digits behind `\u` stand for the number that they were written for. -/
theorem readParts_hex4 {n : Nat} (small : n < 0x10000) (rest : List Char) :
    readParts ('\\' :: 'u' :: (hex4 n ++ rest)) =
      (readParts rest).map fun r => (.unit n :: r.1, r.2) := by
  have unit : hexUnit? (hexChar (n / 0x1000 % 16)) (hexChar (n / 0x100 % 16))
      (hexChar (n / 0x10 % 16)) (hexChar (n % 16)) = some n := by
    have digit : ∀ m, hexDigit? (hexChar (m % 16)) = some (m % 16) :=
      fun m => hexDigit?_hexChar (Nat.mod_lt m (by omega))
    simp only [hexUnit?, digit]
    simp
    omega
  simp only [hex4, List.cons_append, List.nil_append, readParts, unit]
  cases readParts rest <;> rfl

theorem joinParts_unit {n : Nat} (small : n < 0xD800) (parts : List Part) :
    joinParts (.unit n :: parts) = (joinParts parts).map (Char.ofNat n :: ·) := by
  have leading : isLeading n = false := by simp [isLeading]; omega
  have trailing : isTrailing n = false := by simp [isTrailing]; omega
  rcases parts with _ | ⟨_ | _, _⟩ <;> simp [joinParts, leading, trailing]

theorem readParts_char {c : Char} (plain : ¬c.toNat < 0x20) (quote : c ≠ '"') (slash : c ≠ '\\')
    (rest : List Char) :
    readParts (c :: rest) = (readParts rest).map fun r => (.char c :: r.1, r.2) := by
  have ok : ¬(c.toNat < 0x20 || c == '\\') = true := by simp [plain, slash]
  rw [readParts]
  · simp only [ok]
    cases readParts rest <;> rfl
  all_goals simp_all

theorem readParts_escape {d c : Char} (escape : unescape? d = some c) (rest : List Char) :
    readParts ('\\' :: d :: rest) = (readParts rest).map fun r => (.char c :: r.1, r.2) := by
  have other : d ≠ 'u' := by
    rintro rfl
    cases escape
  rw [readParts]
  · simp only [escape]
    cases readParts rest <;> rfl
  all_goals simp_all

/-- What is written for a character is read as one part, which stands for that character. -/
theorem exists_part (c : Char) : ∃ part : Part,
    (∀ rest, readParts (escapeChar c ++ rest) =
      (readParts rest).map fun r => (part :: r.1, r.2)) ∧
    ∀ parts, joinParts (part :: parts) = (joinParts parts).map (c :: ·) := by
  unfold escapeChar
  split
  case h_8 quote slash _ _ _ _ _ =>
    split
    case isTrue control =>
      refine ⟨.unit c.toNat, readParts_hex4 (by omega), fun parts => ?_⟩
      rw [joinParts_unit (by omega), Char.ofNat_toNat]
    case isFalse plain => exact ⟨.char c, readParts_char plain quote slash, fun _ => rfl⟩
  all_goals exact ⟨.char _, readParts_escape rfl, fun _ => rfl⟩

theorem exists_parts (cs rest : List Char) : ∃ parts,
    readParts (cs.flatMap escapeChar ++ '"' :: rest) = some (parts, rest) ∧
      joinParts parts = some cs := by
  induction cs with
  | nil => exact ⟨[], by simp [readParts], rfl⟩
  | cons c cs ih =>
    obtain ⟨parts, read, join⟩ := ih
    obtain ⟨part, readOne, joinOne⟩ := exists_part c
    refine ⟨part :: parts, ?_, ?_⟩
    · rw [List.flatMap_cons, List.append_assoc, readOne, read]
      rfl
    · rw [joinOne, join]
      rfl

theorem readString_write (s : String) (rest : List Char) :
    readString (s.toList.flatMap escapeChar ++ '"' :: rest) = some (some s, rest) := by
  obtain ⟨parts, read, join⟩ := exists_parts s.toList rest
  simp [readString, read, join]

theorem head?_toDigits_ne {n : Nat} (pos : 0 < n) : (Nat.toDigits 10 n).head? ≠ some '0' := by
  induction n using Nat.strong_induction_on with
  | _ n ih =>
    by_cases small : n < 10
    · have all : ∀ d : Fin 10, 0 < d.val → Nat.digitChar d ≠ '0' := by decide
      rw [Nat.toDigits_of_lt_base small]
      simpa using all ⟨n, small⟩ pos
    · rw [Nat.toDigits_of_base_le (by omega) (by omega),
        List.head?_append_of_ne_nil _ Nat.toDigits_ne_nil]
      exact ih (n / 10) (by omega) (by omega)

/-- What stands behind a value inside another one, or nothing. -/
def Closed (rest : List Char) : Prop := ∀ c ∈ rest.head?, c = ',' ∨ c = ']' ∨ c = '}'

section

variable {α : Type} {p : α → Bool} {front rest : List α}

theorem takeWhile_append_of_stops (all : ∀ a ∈ front, p a = true)
    (stops : ∀ a ∈ rest.head?, p a = false) : (front ++ rest).takeWhile p = front := by
  rw [List.takeWhile_append_of_pos all]
  cases rest with
  | nil => simp
  | cons a rest => simp [stops a rfl]

theorem dropWhile_of_stops (stops : ∀ a ∈ rest.head?, p a = false) : rest.dropWhile p = rest := by
  cases rest with
  | nil => rfl
  | cons a rest => simp [stops a rfl]

end

theorem Closed.stops {rest : List Char} (closed : Closed rest) :
    ∀ c ∈ rest.head?, c.isDigit = false := by
  intro c hc
  rcases closed c hc with rfl | rfl | rfl <;> rfl

theorem spanDigits_append {digits rest : List Char} (all : ∀ c ∈ digits, c.isDigit = true)
    (closed : Closed rest) : spanDigits (digits ++ rest) = (digits, rest) := by
  rw [spanDigits, List.span_eq_takeWhile_dropWhile, List.dropWhile_append_of_pos all,
    takeWhile_append_of_stops all closed.stops, dropWhile_of_stops closed.stops]

theorem readWhole_toDigits (n : Nat) {rest : List Char} (closed : Closed rest) :
    readWhole (Nat.toDigits 10 n ++ rest) = some (Nat.toDigits 10 n, rest) := by
  have digits : ∀ c ∈ Nat.toDigits 10 n, c.isDigit = true :=
    fun c hc => Nat.isDigit_of_mem_toDigits (by omega) (by omega) hc
  rw [readWhole, spanDigits_append digits closed]
  split
  case h_1 none_ => exact absurd (congrArg Prod.fst none_) Nat.toDigits_ne_nil
  case h_2 c more _ zero =>
    have written : Nat.toDigits 10 n = '0' :: c :: more := congrArg Prod.fst zero
    obtain rfl | pos := Nat.eq_zero_or_pos n
    · cases written
    · exact absurd (by rw [written]; rfl) (head?_toDigits_ne pos)
  case h_3 same => rw [← same]

theorem readFraction_closed {rest : List Char} (closed : Closed rest) :
    readFraction rest = some ([], rest) := by
  cases rest with
  | nil => rfl
  | cons c rest => rcases closed c rfl with rfl | rfl | rfl <;> rfl

theorem readExponent_closed {rest : List Char} (closed : Closed rest) :
    readExponent rest = some ([], rest) := by
  cases rest with
  | nil => rfl
  | cons c rest => rcases closed c rfl with rfl | rfl | rfl <;> rfl

theorem digitsValue_toDigits (n : Nat) : digitsValue 0 (Nat.toDigits 10 n) = n := by
  have value := Nat.ofDigitChars_toDigits (b := 10) (n := n) (by omega) (by omega)
  simpa only [digitsValue, Nat.mul_comm, Nat.ofDigitChars_eq_foldl] using value

theorem readUnsigned_natural (n : Nat) {rest : List Char} (closed : Closed rest) :
    readUnsigned false (Nat.toDigits 10 n ++ rest) = some (.natural n, rest) := by
  simp [readUnsigned, readWhole_toDigits n closed, readFraction_closed closed,
    readExponent_closed closed, digitsValue_toDigits]

theorem readUnsigned_negative {n : Nat} (nonzero : n ≠ 0) {rest : List Char}
    (closed : Closed rest) :
    readUnsigned true (Nat.toDigits 10 n ++ rest) = some (.negative n, rest) := by
  simp [readUnsigned, readWhole_toDigits n closed, readFraction_closed closed,
    readExponent_closed closed, digitsValue_toDigits, nonzero]

/-- The values that keep all they are when they are written. -/
inductive Lossless : Json → Prop
  | null : Lossless null
  | bool (b : Bool) : Lossless (bool b)
  | natural (n : Nat) : Lossless (number (.natural n))
  | negative {n : Nat} (nonzero : n ≠ 0) : Lossless (number (.negative n))
  | string (s : String) : Lossless (string (some s))
  | array {items : List Json} (each : ∀ j ∈ items, Lossless j) : Lossless (array items)
  | object {members : List (Option String × Json)} (named : ∀ m ∈ members, m.1.isSome = true)
      (each : ∀ m ∈ members, Lossless m.2) : Lossless (object members)

theorem lossless_obj {members : List (String × Json)} (each : ∀ m ∈ members, Lossless m.2) :
    Lossless (obj members) := by
  refine .object (fun m hm => ?_) fun m hm => ?_
  · obtain ⟨_, _, rfl⟩ := List.mem_map.mp hm
    rfl
  · obtain ⟨named, mem, rfl⟩ := List.mem_map.mp hm
    exact each named mem

theorem lossless_str (s : String) : Lossless (str s) := .string s

/-- The reader finds `j` at the front of a text. -/
def Reads (j : Json) : Prop := ∀ fuel rest, j.write.length ≤ fuel → Closed rest →
  readValue fuel (j.write ++ rest) = some (j, rest)

theorem skipSpace_cons {c : Char} (h : isSpace c = false) (s : List Char) :
    skipSpace (c :: s) = c :: s := by
  simp [skipSpace, h]

theorem skipSpace_closed {rest : List Char} (closed : Closed rest) : skipSpace rest = rest := by
  cases rest with
  | nil => rfl
  | cons c rest => rcases closed c rfl with rfl | rfl | rfl <;> rfl

theorem exists_toDigits (n : Nat) : ∃ c tail, Nat.toDigits 10 n = c :: tail ∧ c.isDigit = true := by
  obtain ⟨c, tail, written⟩ := List.exists_cons_of_ne_nil (Nat.toDigits_ne_nil (n := n) (b := 10))
  have mem : c ∈ Nat.toDigits 10 n := by simp [written]
  exact ⟨c, tail, written, Nat.isDigit_of_mem_toDigits (by omega) (by omega) mem⟩

/-- No value begins as an array ends. -/
theorem Lossless.exists_cons {j : Json} (h : Lossless j) :
    ∃ c tail, j.write = c :: tail ∧ isSpace c = false ∧ c ≠ ']' := by
  cases h with
  | null => exact ⟨'n', _, rfl, rfl, by decide⟩
  | bool b =>
    cases b
    · exact ⟨'f', _, rfl, rfl, by decide⟩
    · exact ⟨'t', _, rfl, rfl, by decide⟩
  | natural n =>
    obtain ⟨c, tail, written, digit⟩ := exists_toDigits n
    refine ⟨c, tail, written, ?_, ?_⟩
    · by_contra blank
      simp only [isSpace, Bool.not_eq_false, Bool.or_eq_true, beq_iff_eq] at blank
      rcases blank with ((rfl | rfl) | rfl) | rfl <;> cases digit
    · rintro rfl
      cases digit
  | negative => exact ⟨'-', _, rfl, rfl, by decide⟩
  | string s => exact ⟨'"', _, rfl, rfl, by decide⟩
  | array => exact ⟨'[', _, rfl, rfl, by decide⟩
  | object => exact ⟨'{', _, rfl, rfl, by decide⟩

/-- A number is what the reader takes a text for that begins with a digit or a minus sign. -/
theorem readValue_number {c : Char} (starts : c = '-' ∨ c.isDigit = true) (fuel : Nat)
    (s : List Char) :
    readValue (fuel + 1) (c :: s) = (readNumber (c :: s)).map fun r => (number r.1, r.2) := by
  have full : isSpace c = false := by
    by_contra blank
    simp only [isSpace, Bool.not_eq_false, Bool.or_eq_true, beq_iff_eq] at blank
    rcases blank with ((rfl | rfl) | rfl) | rfl <;> simp at starts
  rw [readValue, skipSpace_cons full]
  split
  case h_7 => rfl
  all_goals
    rename_i same
    cases same
    simp at starts

theorem readNumber_natural (n : Nat) {rest : List Char} (closed : Closed rest) :
    readNumber (Nat.toDigits 10 n ++ rest) = some (.natural n, rest) := by
  obtain ⟨c, tail, written, digit⟩ := exists_toDigits n
  have read := readUnsigned_natural n closed
  rw [written, List.cons_append] at read ⊢
  rw [readNumber]
  · exact read
  · intro _ minus
    cases minus
    cases digit

theorem reads_of_succ {j : Json} (h : Lossless j)
    (reads : ∀ fuel rest, j.write.length ≤ fuel + 1 → Closed rest →
      readValue (fuel + 1) (j.write ++ rest) = some (j, rest)) : Reads j := by
  intro fuel rest enough closed
  obtain ⟨c, tail, written, _⟩ := h.exists_cons
  cases fuel with
  | zero => simp [written] at enough
  | succ fuel => exact reads fuel rest enough closed

theorem readItems_write {items : List Json} (reads : ∀ j ∈ items, Reads j) (some_ : items ≠ [])
    (fuel : Nat) (enough : (writeItems items).length < fuel) (rest : List Char) :
    readItems fuel (writeItems items ++ ']' :: rest) = some (items, rest) := by
  induction items generalizing fuel with
  | nil => exact absurd rfl some_
  | cons j items ih =>
    obtain ⟨fuel, rfl⟩ := Nat.exists_eq_add_one.mpr (Nat.zero_lt_of_lt enough)
    cases items with
    | nil =>
      have closed : Closed (']' :: rest) := by simp [Closed]
      have fits : j.write.length < fuel + 1 := by simpa [writeItems] using enough
      have read := reads j List.mem_cons_self fuel (']' :: rest) (by omega) closed
      simp only [writeItems, readItems, read, bind, Option.bind, skipSpace_closed closed]
      rfl
    | cons k items =>
      have closed : Closed (',' :: (writeItems (k :: items) ++ ']' :: rest)) := by simp [Closed]
      simp only [writeItems, List.length_append, List.length_cons] at enough
      have read := reads j List.mem_cons_self fuel _ (by omega) closed
      have others := ih (fun i hi => reads i (List.mem_cons_of_mem _ hi)) (by simp) fuel (by omega)
      simp only [writeItems, List.append_assoc, List.cons_append, readItems, read, bind,
        Option.bind, skipSpace_closed closed, others]
      rfl

theorem readMembers_write {members : List (Option String × Json)}
    (named : ∀ m ∈ members, m.1.isSome = true) (reads : ∀ m ∈ members, Reads m.2)
    (some_ : members ≠ []) (fuel : Nat) (enough : (writeMembers members).length < fuel)
    (rest : List Char) :
    readMembers fuel (writeMembers members ++ '}' :: rest) = some (members, rest) := by
  induction members generalizing fuel with
  | nil => exact absurd rfl some_
  | cons m members ih =>
    obtain ⟨key, j⟩ := m
    obtain ⟨fuel, rfl⟩ := Nat.exists_eq_add_one.mpr (Nat.zero_lt_of_lt enough)
    obtain ⟨name, rfl⟩ : ∃ name, key = some name :=
      Option.isSome_iff_exists.mp (named _ List.mem_cons_self)
    have colon : ∀ s, skipSpace (':' :: s) = ':' :: s := skipSpace_cons rfl
    have quote : ∀ s, skipSpace ('"' :: s) = '"' :: s := skipSpace_cons rfl
    cases members with
    | nil =>
      have closed : Closed ('}' :: rest) := by simp [Closed]
      have fits : j.write.length < fuel + 1 := by
        simp [writeMembers, writeString] at enough
        omega
      have read := reads _ List.mem_cons_self fuel ('}' :: rest)
        (by simpa using Nat.le_of_lt_succ fits) closed
      simp only [writeMembers, writeString, Option.getD_some, List.cons_append, List.append_assoc,
        List.nil_append, readMembers, quote, readString_write, colon, read, bind, Option.bind,
        skipSpace_closed closed]
      rfl
    | cons k members =>
      have closed : Closed (',' :: (writeMembers (k :: members) ++ '}' :: rest)) := by simp [Closed]
      simp only [writeMembers, List.length_append, List.length_cons] at enough
      have read := reads _ List.mem_cons_self fuel _ (by simp only; omega) closed
      have others := ih (fun i hi => named i (List.mem_cons_of_mem _ hi))
        (fun i hi => reads i (List.mem_cons_of_mem _ hi)) (by simp) fuel (by omega)
      simp only [writeMembers, writeString, Option.getD_some, List.cons_append, List.append_assoc,
        List.nil_append, readMembers, quote, readString_write, colon, read, bind, Option.bind,
        skipSpace_closed closed, others]
      rfl

theorem dropWord?_append (word : String) (rest : List Char) :
    dropWord? word (word.toList ++ rest) = some rest := by
  have starts : word.toList.isPrefixOf (word.toList ++ rest) = true :=
    List.isPrefixOf_iff_prefix.mpr (List.prefix_append _ _)
  rw [dropWord?, if_pos starts, ← String.length_toList, List.drop_left]

theorem reads_of_lossless {j : Json} (h : Lossless j) : Reads j := by
  induction h with
  | null =>
    refine reads_of_succ .null fun fuel rest _ _ => ?_
    exact congrArg (Option.map fun r => (Json.null, r)) (dropWord?_append "ull" rest)
  | bool b =>
    refine reads_of_succ (.bool b) fun fuel rest _ _ => ?_
    cases b
    · exact congrArg (Option.map fun r => (Json.bool false, r)) (dropWord?_append "alse" rest)
    · exact congrArg (Option.map fun r => (Json.bool true, r)) (dropWord?_append "rue" rest)
  | natural n =>
    refine reads_of_succ (.natural n) fun fuel rest _ closed => ?_
    obtain ⟨c, tail, written, digit⟩ := exists_toDigits n
    have read := readNumber_natural n closed
    rw [written, List.cons_append] at read
    rw [write, Number.write, written, List.cons_append, readValue_number (.inr digit), read]
    rfl
  | @negative n nonzero =>
    refine reads_of_succ (.negative nonzero) fun fuel rest _ closed => ?_
    rw [write, Number.write, List.cons_append, readValue_number (.inl rfl), readNumber,
      readUnsigned_negative nonzero closed]
    rfl
  | string s =>
    refine reads_of_succ (.string s) fun fuel rest _ _ => ?_
    have read := readString_write s rest
    simp only [write, writeString, Option.getD_some, List.cons_append, List.append_assoc,
      List.nil_append, readValue, skipSpace_cons (c := '"') rfl, read, Option.map_some]
  | @array items each reads =>
    refine reads_of_succ (.array each) fun fuel rest enough _ => ?_
    cases items with
    | nil => rfl
    | cons j items =>
      have items_ := readItems_write reads (by simp) fuel
        (by simp [write] at enough; omega) rest
      obtain ⟨c, tail, written, full, other⟩ := (each j List.mem_cons_self).exists_cons
      obtain ⟨tail', begins⟩ : ∃ tail', writeItems (j :: items) ++ ']' :: rest = c :: tail' := by
        cases items <;> simp [writeItems, written]
      rw [begins] at items_
      have text : (array (j :: items)).write ++ rest = '[' :: c :: tail' := by
        rw [← begins, write, List.cons_append, List.append_assoc]
        rfl
      rw [text, readValue, skipSpace_cons (c := '[') rfl]
      simp only [skipSpace_cons full]
      split
      · rename_i closing
        cases closing
        exact absurd rfl other
      · rw [items_]
        rfl
  | @object members named each reads =>
    refine reads_of_succ (.object named each) fun fuel rest enough _ => ?_
    cases members with
    | nil => rfl
    | cons m members =>
      have members_ := readMembers_write named reads (by simp) fuel
        (by simp [write] at enough; omega) rest
      obtain ⟨tail, begins⟩ : ∃ tail, writeMembers (m :: members) ++ '}' :: rest = '"' :: tail := by
        cases members <;> exact ⟨_, rfl⟩
      rw [begins] at members_
      have text : (object (m :: members)).write ++ rest = '{' :: '"' :: tail := by
        rw [← begins, write, List.cons_append, List.append_assoc]
        rfl
      rw [text, readValue, skipSpace_cons (c := '{') rfl]
      exact congrArg (Option.map fun r => (object r.1, r.2)) members_

/-- What is written is read back. -/
theorem parse?_render {j : Json} (h : Lossless j) : parse? j.render = some j := by
  have closed : Closed [] := nofun
  have read := reads_of_lossless h (2 * j.write.length + 1) [] (by omega) closed
  rw [List.append_nil] at read
  rw [parse?, render, String.toList_ofList, parseChars, read]
  rfl

end FixGrader.Json
