import FixGrader.Pattern.Search
import Mathlib.Data.List.Basic

namespace FixGrader.Place

/-- The place with `a` before it and `b` behind it. -/
def between (a b : List Char) : Place := ⟨a.length, a.getLast?, b⟩

/-- The place `i` is in `text`. -/
def Of (text : List Char) (i : Place) : Prop := ∃ a b, text = a ++ b ∧ i = between a b

@[simp] theorem after_between (a b : List Char) : (between a b).after = b.head? := rfl

theorem between_concat (a b : List Char) (c : Char) :
    between (a ++ [c]) b = ⟨a.length + 1, some c, b⟩ := by
  simp [between]

theorem next?_between (a b : List Char) (c : Char) :
    (between a (c :: b)).next? = some (between (a ++ [c]) b) := by
  rw [between_concat]
  rfl

theorem onward_cons (a b : List Char) (c : Char) : onward a.length a.getLast? (c :: b) =
    between a (c :: b) :: onward (a ++ [c]).length (a ++ [c]).getLast? b := by
  simp [onward, between]

theorem mem_onward {a b : List Char} {i : Place} :
    i ∈ onward a.length a.getLast? b ↔ ∃ m n, b = m ++ n ∧ i = between (a ++ m) n := by
  induction b generalizing a with
  | nil => simp [onward, between]
  | cons c b ih =>
    rw [onward_cons, List.mem_cons, ih]
    constructor
    · rintro (rfl | ⟨m, n, rfl, rfl⟩)
      · exact ⟨[], c :: b, rfl, by simp⟩
      · exact ⟨c :: m, n, rfl, by simp⟩
    · rintro ⟨m, n, cut, rfl⟩
      cases m with
      | nil =>
        obtain rfl : n = c :: b := cut.symm
        exact .inl (by simp)
      | cons d m =>
        obtain ⟨rfl, rfl⟩ := List.cons.inj cut
        exact .inr ⟨m, n, rfl, by simp⟩

theorem mem_allOf {text : List Char} {i : Place} : i ∈ allOf text ↔ Of text i :=
  mem_onward (a := [])

namespace Of

variable {text : List Char} {i j : Place}

/-- Places of one text differ in their numbers. -/
theorem eq_of_offset (hi : Of text i) (hj : Of text j) (same : i.offset = j.offset) : i = j := by
  obtain ⟨a, b, rfl, rfl⟩ := hi
  obtain ⟨a', b', cut, rfl⟩ := hj
  obtain ⟨rfl, rfl⟩ := List.append_inj cut same
  rfl

theorem offset_add (hi : Of text i) : i.offset + i.rest.length = text.length := by
  obtain ⟨a, b, rfl, rfl⟩ := hi
  simp [between]

end Of

/-- Places of one text in their order. -/
structure Ascending (text : List Char) (is : List Place) : Prop where
  places : ∀ i ∈ is, Of text i
  sorted : is.Pairwise (·.offset < ·.offset)

namespace Ascending

variable {text : List Char} {i j : Place} {is js : List Place}

theorem nil : Ascending text [] := ⟨by simp, .nil⟩

theorem head (h : Ascending text (i :: is)) : Of text i := h.places i List.mem_cons_self

theorem tail (h : Ascending text (i :: is)) : Ascending text is :=
  ⟨fun j hj => h.places j (List.mem_cons_of_mem i hj), h.sorted.of_cons⟩

theorem lt (h : Ascending text (i :: is)) : ∀ j ∈ is, i.offset < j.offset :=
  (List.pairwise_cons.mp h.sorted).1

theorem cons (hi : Of text i) (lt : ∀ j ∈ is, i.offset < j.offset) (h : Ascending text is) :
    Ascending text (i :: is) :=
  ⟨List.forall_mem_cons.mpr ⟨hi, h.places⟩, List.pairwise_cons.mpr ⟨lt, h.sorted⟩⟩

theorem filter (p : Place → Bool) (h : Ascending text is) : Ascending text (is.filter p) :=
  ⟨fun i hi => h.places i (List.mem_of_mem_filter hi), h.sorted.filter p⟩

theorem notMem_of_lt (h : Ascending text (j :: js)) (lt : i.offset < j.offset) :
    i ∉ j :: js := by
  intro mem
  obtain rfl | mem := List.mem_cons.mp mem
  · exact Nat.lt_irrefl _ lt
  · exact Nat.lt_asymm lt (h.lt i mem)

end Ascending

theorem ascending_onward (a b : List Char) :
    Ascending (a ++ b) (onward a.length a.getLast? b) := by
  induction b generalizing a with
  | nil => exact .cons ⟨a, [], rfl, rfl⟩ (by simp) .nil
  | cons c b ih =>
    rw [onward_cons]
    refine .cons ⟨a, c :: b, rfl, rfl⟩ (fun j hj => ?_) (by simpa using ih (a ++ [c]))
    obtain ⟨m, n, _, rfl⟩ := mem_onward.mp hj
    simp [between]

theorem ascending_allOf (text : List Char) : Ascending text (allOf text) :=
  ascending_onward [] text

section

variable {text : List Char} {is js : List Place}

theorem mem_merge (hi : Ascending text is) (hj : Ascending text js) {k : Place} :
    k ∈ merge is js ↔ k ∈ is ∨ k ∈ js := by
  fun_induction merge is js with
  | case1 js => simp
  | case2 is => simp
  | case3 i is j js lt ih =>
    rw [List.mem_cons, ih hi.tail hj, List.mem_cons (a := k) (b := i), or_assoc]
  | case4 i is j js _ lt ih =>
    rw [List.mem_cons, ih hi hj.tail, List.mem_cons (a := k) (b := j), or_left_comm]
  | case5 i is j js left right ih =>
    obtain rfl := hi.head.eq_of_offset hj.head (by omega)
    rw [List.mem_cons, ih hi.tail hj.tail]
    simp only [List.mem_cons]
    tauto

theorem ascending_merge (hi : Ascending text is) (hj : Ascending text js) :
    Ascending text (merge is js) := by
  fun_induction merge is js with
  | case1 js => exact hj
  | case2 is => exact hi
  | case3 i is j js lt ih =>
    refine .cons hi.head (fun k hk => ?_) (ih hi.tail hj)
    obtain hk | hk := (mem_merge hi.tail hj).mp hk
    · exact hi.lt k hk
    · obtain rfl | hk := List.mem_cons.mp hk
      · exact lt
      · exact Nat.lt_trans lt (hj.lt k hk)
  | case4 i is j js _ lt ih =>
    refine .cons hj.head (fun k hk => ?_) (ih hi hj.tail)
    obtain hk | hk := (mem_merge hi hj.tail).mp hk
    · obtain rfl | hk := List.mem_cons.mp hk
      · exact lt
      · exact Nat.lt_trans lt (hi.lt k hk)
    · exact hj.lt k hk
  | case5 i is j js left right ih =>
    have same : i.offset = j.offset := by omega
    refine .cons hi.head (fun k hk => ?_) (ih hi.tail hj.tail)
    obtain hk | hk := (mem_merge hi.tail hj.tail).mp hk
    · exact hi.lt k hk
    · exact same ▸ hj.lt k hk

theorem mem_minus (hi : Ascending text is) (hj : Ascending text js) {k : Place} :
    k ∈ minus is js ↔ k ∈ is ∧ k ∉ js := by
  fun_induction minus is js with
  | case1 js => simp
  | case2 is => simp
  | case3 i is j js lt ih =>
    have absent := hj.notMem_of_lt lt
    rw [List.mem_cons, ih hi.tail hj]
    constructor
    · rintro (rfl | ⟨mem, new⟩)
      · exact ⟨List.mem_cons_self, absent⟩
      · exact ⟨List.mem_cons_of_mem i mem, new⟩
    · rintro ⟨mem, new⟩
      obtain rfl | mem := List.mem_cons.mp mem
      · exact .inl rfl
      · exact .inr ⟨mem, new⟩
  | case4 i is j js _ lt ih =>
    rw [ih hi hj.tail]
    refine and_congr_right fun mem => not_congr ⟨List.mem_cons_of_mem j, fun hk => ?_⟩
    obtain rfl | hk := List.mem_cons.mp hk
    · exact absurd mem (hi.notMem_of_lt lt)
    · exact hk
  | case5 i is j js left right ih =>
    -- The common head is left out; nothing else of the first list equals it.
    obtain rfl := hi.head.eq_of_offset hj.head (by omega)
    rw [ih hi.tail hj.tail]
    constructor
    · rintro ⟨mem, new⟩
      refine ⟨List.mem_cons_of_mem i mem, fun hk => ?_⟩
      obtain rfl | hk := List.mem_cons.mp hk
      · exact Nat.lt_irrefl _ (hi.lt k mem)
      · exact new hk
    · rintro ⟨mem, new⟩
      obtain rfl | mem := List.mem_cons.mp mem
      · exact absurd List.mem_cons_self new
      · exact ⟨mem, fun hk => new (List.mem_cons_of_mem i hk)⟩

theorem ascending_minus (hi : Ascending text is) (hj : Ascending text js) :
    Ascending text (minus is js) := by
  fun_induction minus is js with
  | case1 js => exact .nil
  | case2 is => exact hi
  | case3 i is j js lt ih =>
    exact .cons hi.head (fun k hk => hi.lt k ((mem_minus hi.tail hj).mp hk).1) (ih hi.tail hj)
  | case4 i is j js _ lt ih => exact ih hi hj.tail
  | case5 i is j js left right ih => exact ih hi.tail hj.tail

end

end FixGrader.Place
