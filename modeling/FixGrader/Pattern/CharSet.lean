import FixGrader.Text.Blank
import FixGrader.Unicode.Folding
import FixGrader.Unicode.Word

namespace FixGrader

inductive CharSet where
  | nothing
  | all
  | range (lo hi : Char)
  | word
  | digit
  | blank
  | table (t : Unicode.RangeTable)
  | union (a b : CharSet)
  | inter (a b : CharSet)
  | compl (a : CharSet)
  | folded (a : CharSet)
  deriving DecidableEq, Inhabited

namespace CharSet

def mem : CharSet → Char → Bool
  | nothing, _ => false
  | all, _ => true
  | range lo hi, c => lo.toNat ≤ c.toNat && c.toNat ≤ hi.toNat
  | word, c => Unicode.isWord c
  | digit, c => Unicode.isDigit c
  | blank, c => Text.isBlank c
  | table t, c => t.contains c
  | union a b, c => a.mem c || b.mem c
  | inter a b, c => a.mem c && b.mem c
  | compl a, c => !a.mem c
  | folded a, c => (Unicode.caseVariants c).any a.mem

def single (c : Char) : CharSet := range c c

def ofList : List Char → CharSet
  | [] => nothing
  | [c] => single c
  | c :: cs => union (single c) (ofList cs)

/-- The characters of `s`. -/
def oneOf (s : String) : CharSet := ofList s.toList

/-- The characters that `s` does not hold. -/
def noneOf (s : String) : CharSet := compl (oneOf s)

def letter : CharSet := union (range 'A' 'Z') (range 'a' 'z')

def diff (a b : CharSet) : CharSet := inter a (compl b)

def symmDiff (a b : CharSet) : CharSet := union (diff a b) (diff b a)

theorem mem_single {c d : Char} : (single c).mem d = decide (d = c) := by
  rw [Bool.eq_iff_iff]
  simp only [single, mem, Bool.and_eq_true, decide_eq_true_eq]
  refine ⟨fun h => ?_, fun h => h ▸ ⟨Nat.le_refl _, Nat.le_refl _⟩⟩
  exact Char.ext (UInt32.toNat_inj.1 (Nat.le_antisymm h.2 h.1))

@[simp] theorem mem_compl {a : CharSet} {c : Char} : (compl a).mem c = !a.mem c := rfl

@[simp] theorem mem_union {a b : CharSet} {c : Char} :
    (union a b).mem c = (a.mem c || b.mem c) := rfl

theorem mem_ofList {cs : List Char} {d : Char} : (ofList cs).mem d = cs.contains d := by
  induction cs with
  | nil => rfl
  | cons c cs ih =>
    cases cs with
    | nil => simp [ofList, mem_single]
    | cons c' cs => simp [ofList, mem_single, ih]

theorem mem_oneOf {s : String} {c : Char} : (oneOf s).mem c = s.toList.contains c := mem_ofList

def blankTable : Unicode.RangeTable :=
  ⟨#[9, 14, 0x20, 0x21, 0x85, 0x86, 0xA0, 0xA1, 0x1680, 0x1681, 0x2000, 0x200B, 0x2028, 0x202A,
    0x202F, 0x2030, 0x205F, 0x2060, 0x3000, 0x3001]⟩

/-- The code points of the set. -/
def codePoints : CharSet → Unicode.RangeTable
  | nothing => ⟨#[]⟩
  | all => .all
  | range lo hi => .range lo.toNat hi.toNat
  | word => Unicode.wordTable
  | digit => Unicode.digitTable
  | blank => blankTable
  | table t => t
  | union a b => a.codePoints.union b.codePoints
  | inter a b => a.codePoints.inter b.codePoints
  | compl a => Unicode.RangeTable.all.diff a.codePoints
  | folded (range lo hi) =>
    if lo == hi then .ofPoints ((Unicode.caseVariants lo).map Char.toNat)
    else Unicode.foldedTable (.range lo.toNat hi.toNat)
  | folded a => Unicode.foldedTable a.codePoints

end CharSet

end FixGrader
