import FixGrader.Submission.Basic

namespace FixGrader

/-- Why a store does not answer. -/
inductive StoreError where
  | unreachable (cause : String)
  | undecodable (cause : String)
  deriving DecidableEq, Repr

def StoreError.message : StoreError → String
  | unreachable cause => s!"Redis error: {cause}"
  | undecodable cause => s!"Serialization error: {cause}"

structure Store where
  records : List Submission := []
  deriving Repr, Inhabited

namespace Store

def find? (st : Store) (id : Uuid) : Option Submission := st.records.find? (·.id == id)

/-- Puts `s` in the place of the record with its id, or behind all others. -/
def put : List Submission → Submission → List Submission
  | [], s => [s]
  | r :: rs, s => if r.id == s.id then s :: rs else r :: put rs s

def save (st : Store) (s : Submission) : Store := ⟨put st.records s⟩

theorem find?_save_self (st : Store) (s : Submission) : (st.save s).find? s.id = some s := by
  obtain ⟨rs⟩ := st
  simp only [save, find?]
  induction rs with
  | nil => simp [put]
  | cons r rs ih =>
    by_cases h : r.id = s.id
    · simp [put, h]
    · simp [put, h, ih]

theorem find?_save_of_ne (st : Store) {s : Submission} {id : Uuid} (h : id ≠ s.id) :
    (st.save s).find? id = st.find? id := by
  obtain ⟨rs⟩ := st
  simp only [save, find?]
  induction rs with
  | nil => simp [put, Ne.symm h]
  | cons r rs ih =>
    by_cases hr : r.id = s.id
    · simp [put, hr, Ne.symm h]
    · by_cases hi : r.id = id
      · simp [put, hi, h]
      · simp [put, hr, hi, ih]

end Store

end FixGrader
