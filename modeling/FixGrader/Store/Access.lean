import FixGrader.Store.Basic

namespace FixGrader

/-- What goes wrong with a call on a store; neither leaves a trace in it. -/
inductive CallFault where
  | fails (e : StoreError)
  | breaks
  deriving DecidableEq, Repr

/-- The calls on a store whose state is `τ`. -/
structure StoreAccess (τ : Type) where
  load : Uuid → τ → Except CallFault (Option Submission) × τ
  save : Submission → τ → Except CallFault Unit × τ

structure CountedStore where
  store : Store := {}
  loads : Nat := 0
  saves : Nat := 0
  saved : List Submission := []
  deriving Inhabited

namespace StoreAccess

/-- The store in memory. The faults are those of the call with a number, loads and saves being
counted apart from 0. -/
def inMemory (loadFault saveFault : Nat → Option CallFault) : StoreAccess CountedStore where
  load id c :=
    let counted := { c with loads := c.loads + 1 }
    match loadFault c.loads with
    | some fault => (.error fault, counted)
    | none => (.ok (c.store.find? id), counted)
  save s c :=
    let counted := { c with saves := c.saves + 1 }
    match saveFault c.saves with
    | some fault => (.error fault, counted)
    | none => (.ok (), { counted with store := c.store.save s, saved := c.saved ++ [s] })

end StoreAccess

end FixGrader
