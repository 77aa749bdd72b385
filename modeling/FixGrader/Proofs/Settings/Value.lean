import FixGrader.Proofs.Settings.Validity
import FixGrader.Settings.Override

namespace FixGrader

def SandboxDriver.names : SandboxDriver → List String
  | disabled => ["disabled", "none"]
  | host => ["local"]
  | container => ["containerized", "container", "docker"]

theorem SandboxDriver.ofName?_eq_some_iff {name : String} {d : SandboxDriver} :
    ofName? name = some d ↔ name ∈ d.names := by
  unfold ofName?
  split
  all_goals cases d <;> simp_all [names]

theorem Text.splitAt_eq_splitOn (sep : Char) (s : List Char) : splitAt sep s = s.splitOn sep := by
  induction s with
  | nil => rfl
  | cons c s ih =>
    have some_ : s.splitOn sep ≠ [] := List.splitOnP_ne_nil _ _
    have cut : (c :: s).splitOn sep = if c == sep then [] :: s.splitOn sep
        else (s.splitOn sep).modifyHead (c :: ·) := List.splitOnP_cons_eq_if_modifyHead _ _
    rw [splitAt, ih, cut]
    cases pieces : s.splitOn sep with
    | nil => exact absurd pieces some_
    | cons piece more => rfl

namespace ValueText

/-- A numeral for `n` below `bound`: digits, before which a plus sign may stand. -/
def Numeral (bound : Nat) (text : List Char) (n : Nat) : Prop :=
  ∃ digits, (text = digits ∨ text = '+' :: digits) ∧ digits ≠ [] ∧
    (∀ c ∈ digits, c.isDigit = true) ∧ Nat.ofDigitChars 10 digits 0 = n ∧ n < bound

variable {bound n m : Nat} {cs : List Char} {text : String}

theorem le_ofDigitChars (cs : List Char) (n : Nat) : n ≤ Nat.ofDigitChars 10 cs n := by
  induction cs generalizing n with
  | nil => simp
  | cons c cs ih =>
    rw [Nat.ofDigitChars_cons]
    exact Nat.le_trans (by omega) (ih _)

theorem decimalBelow_eq_ok_iff (small : n < bound) : decimalBelow bound n cs = .ok m ↔
    (∀ c ∈ cs, c.isDigit = true) ∧ Nat.ofDigitChars 10 cs n = m ∧ m < bound := by
  -- On the digits: a value that once reaches the bound stays above it whatever follows.
  induction cs generalizing n with
  | nil =>
    suffices n = m ↔ n = m ∧ m < bound by simpa [decimalBelow]
    exact ⟨fun same => ⟨same, same ▸ small⟩, And.left⟩
  | cons c cs ih =>
    simp only [decimalBelow, Nat.ofDigitChars_cons, List.forall_mem_cons]
    generalize 10 * n + (c.toNat - '0'.toNat) = next
    by_cases digit : c.isDigit = true
    · by_cases fits : next < bound
      · simp [digit, fits, ih fits]
      · have above := le_ofDigitChars cs next
        simp only [digit, fits, Bool.not_true, Bool.false_eq_true, if_false, reduceCtorEq, true_and,
          false_iff]
        omega
    · simp [digit]

theorem unsigned_eq_ok_iff (positive : 0 < bound) :
    unsigned bound cs = .ok n ↔ Numeral bound cs n := by
  unfold unsigned Numeral
  split
  · simp
  · simp
  next digits some_ =>
    rw [decimalBelow_eq_ok_iff positive]
    constructor
    · rintro ⟨all, value, small⟩
      refine ⟨digits, .inr rfl, ?_, all, value, small⟩
      rintro rfl
      exact some_ rfl
    · rintro ⟨_, rfl | same, -, all, value, small⟩
      · have plus := all '+' (by simp)
        cases plus
      · obtain ⟨-, rfl⟩ := List.cons.inj same
        exact ⟨all, value, small⟩
  next some_ _ unsigned_ =>
    rw [decimalBelow_eq_ok_iff positive]
    constructor
    · rintro ⟨all, value, small⟩
      exact ⟨cs, .inl rfl, some_, all, value, small⟩
    · rintro ⟨digits, rfl | same, -, all, value, small⟩
      · exact ⟨all, value, small⟩
      · exact absurd same (unsigned_ digits)

theorem map_eq_ok_iff {ε α β : Type} {f : α → β} {g : β → α} {x : Except ε α} {b : β}
    (fg : f (g b) = b) (gf : ∀ a, x = .ok a → g (f a) = a) : x.map f = .ok b ↔ x = .ok (g b) := by
  constructor
  · intro mapped
    obtain ⟨a, rfl, rfl⟩ := exists_of_map_eq_ok mapped
    rw [gf a rfl]
  · rintro rfl
    exact congrArg Except.ok fg

theorem word32_eq_ok_iff {w : UInt32} :
    word32 text = .ok w ↔ Numeral UInt32.size (Text.trimChars text.toList) w.toNat := by
  rw [word32, map_eq_ok_iff (g := UInt32.toNat) UInt32.ofNat_toNat, unsigned_eq_ok_iff (by decide)]
  intro n read
  obtain ⟨_, _, _, _, _, small⟩ := (unsigned_eq_ok_iff (by decide)).mp read
  exact UInt32.toNat_ofNat_of_lt small

theorem word64_eq_ok_iff {w : UInt64} :
    word64 text = .ok w ↔ Numeral UInt64.size (Text.trimChars text.toList) w.toNat := by
  rw [word64, map_eq_ok_iff (g := UInt64.toNat) UInt64.ofNat_toNat, unsigned_eq_ok_iff (by decide)]
  intro n read
  obtain ⟨_, _, _, _, _, small⟩ := (unsigned_eq_ok_iff (by decide)).mp read
  exact UInt64.toNat_ofNat_of_lt small

theorem bool_eq_ok_iff {b : Bool} :
    bool text = .ok b ↔ Text.trim text = if b then "true" else "false" := by
  unfold bool
  split
  next yes => cases b <;> simp [yes]
  next no => cases b <;> simp [no]
  next notYes notNo => cases b <;> simp_all

theorem driver_eq_ok_iff {d : SandboxDriver} :
    driver text = .ok d ↔ Unicode.toLower (Text.trim text) ∈ d.names := by
  rw [← SandboxDriver.ofName?_eq_some_iff, driver]
  cases SandboxDriver.ofName? (Unicode.toLower (Text.trim text)) <;> simp

end ValueText

/-- The types of the values that variables give. -/
inductive ValueKind where
  | text
  | list
  | switch
  | word32
  | word64
  | driver
  deriving DecidableEq

namespace ValueKind

abbrev Value : ValueKind → Type
  | text => String
  | list => List String
  | switch => Bool
  | word32 => UInt32
  | word64 => UInt64
  | driver => SandboxDriver

/-- Not every text writes a value of this type. -/
def isParsed : ValueKind → Bool
  | text | list => false
  | switch | word32 | word64 | driver => true

/-- A text writes a value: each stands for itself, and for the list of its pieces between commas,
less the blanks around them and the pieces of which nothing is left. -/
def Writes : (k : ValueKind) → String → k.Value → Prop
  | text, t, value => value = t
  | list, t, items =>
    items = (((t.toList.splitOn ',').map Text.trimChars).filter (!·.isEmpty)).map String.ofList
  | switch, t, b => Text.trim t = if b then "true" else "false"
  | word32, t, n => ValueText.Numeral UInt32.size (Text.trimChars t.toList) n.toNat
  | word64, t, n => ValueText.Numeral UInt64.size (Text.trimChars t.toList) n.toNat
  | driver, t, d => Unicode.toLower (Text.trim t) ∈ d.names

def read : (k : ValueKind) → String → Except ValueFault k.Value
  | text, t => .ok t
  | list, t => .ok (ValueText.pieces t)
  | switch, t => ValueText.bool t
  | word32, t => ValueText.word32 t
  | word64, t => ValueText.word64 t
  | driver, t => ValueText.driver t

variable {k : ValueKind} {t : String} {value : k.Value}

theorem read_eq_ok_iff : k.read t = .ok value ↔ k.Writes t value := by
  cases k with
  | text =>
    exact ⟨fun same => (Except.ok.inj same).symm, fun same => congrArg Except.ok same.symm⟩
  | list =>
    rw [read, Writes, ValueText.pieces, Text.splitAt_eq_splitOn]
    exact ⟨fun same => (Except.ok.inj same).symm, fun same => congrArg Except.ok same.symm⟩
  | switch => exact ValueText.bool_eq_ok_iff
  | word32 => exact ValueText.word32_eq_ok_iff
  | word64 => exact ValueText.word64_eq_ok_iff
  | driver =>
    rw [read, Writes]
    exact ValueText.driver_eq_ok_iff

theorem exists_writes_of_not_isParsed (free : k.isParsed = false) (t : String) :
    ∃ value, k.Writes t value := by
  cases k with
  | text => exact ⟨t, rfl⟩
  | list => exact ⟨ValueText.pieces t, read_eq_ok_iff.mp rfl⟩
  | _ => cases free

end ValueKind

end FixGrader
