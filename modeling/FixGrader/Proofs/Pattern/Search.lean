import FixGrader.Proofs.Pattern.Place
import Mathlib.Tactic.Tauto

namespace FixGrader

open Place

namespace Pattern

namespace Matches

variable {p q : Pattern} {s : CharSet} {text a b : List Char} {i j k : Place} {m n : Nat}

/-- A match cuts off a piece of the text behind its start. -/
theorem exists_piece (h : Matches p i j) :
    ∀ a b, i = between a b → ∃ x y, b = x ++ y ∧ j = between (a ++ x) y := by
  induction h with
  | empty | runNil | starNil | upToNil | assert =>
    rintro a b rfl
    exact ⟨[], b, rfl, by simp⟩
  | @one s i j c cs rest _ end_ =>
    rintro a b rfl
    obtain rfl : b = c :: cs := rest
    exact ⟨[c], cs, rfl, by rw [end_, between_concat]; rfl⟩
  | seq _ _ ih₁ ih₂ | runCons _ _ ih₁ ih₂ | starCons _ _ ih₁ ih₂ | upToCons _ _ ih₁ ih₂ =>
    rintro a b rfl
    obtain ⟨x, y, rfl, rfl⟩ := ih₁ a b rfl
    obtain ⟨x', y', rfl, rfl⟩ := ih₂ (a ++ x) y rfl
    exact ⟨x ++ x', y', by simp, by simp⟩
  | altLeft _ ih | altRight _ ih => exact ih

theorem of (hi : Of text i) (h : Matches p i j) : Of text j := by
  obtain ⟨a, b, rfl, rfl⟩ := hi
  obtain ⟨x, y, rfl, rfl⟩ := h.exists_piece a b rfl
  exact ⟨a ++ x, y, by simp, rfl⟩

theorem offset_le (hi : Of text i) (h : Matches p i j) : i.offset ≤ j.offset := by
  obtain ⟨a, b, rfl, rfl⟩ := hi
  obtain ⟨x, y, rfl, rfl⟩ := h.exists_piece a b rfl
  simp [between]

theorem eq_or_rest_lt (hi : Of text i) (h : Matches p i j) :
    j = i ∨ j.rest.length < i.rest.length := by
  obtain ⟨a, b, rfl, rfl⟩ := hi
  obtain ⟨x, y, rfl, rfl⟩ := h.exists_piece a b rfl
  cases x with
  | nil => exact .inl (by simp)
  | cons c x => exact .inr (by simp only [between, List.length_append, List.length_cons]; omega)

theorem empty_iff : Matches .empty i j ↔ j = i :=
  ⟨by rintro ⟨⟩; rfl, by rintro rfl; exact .empty⟩

theorem assert_iff {A : Assertion} : Matches (.assert A) i j ↔ j = i ∧ A.holds i = true :=
  ⟨by rintro ⟨⟩; exact ⟨rfl, ‹_›⟩, by rintro ⟨rfl, holds⟩; exact .assert holds⟩

theorem seq_iff : Matches (.seq p q) i j ↔ ∃ k, Matches p i k ∧ Matches q k j :=
  ⟨by rintro ⟨⟩; exact ⟨_, ‹_›, ‹_›⟩, by rintro ⟨k, first, second⟩; exact .seq first second⟩

theorem alt_iff : Matches (.alt p q) i j ↔ Matches p i j ∨ Matches q i j :=
  ⟨by rintro (_ | _) <;> simp_all, by rintro (h | h) <;> [exact .altLeft h; exact .altRight h]⟩

theorem one_iff : Matches (.one s) (between a b) j ↔
    ∃ c cs, b = c :: cs ∧ s.mem c = true ∧ j = between (a ++ [c]) cs := by
  constructor
  · rintro ⟨⟩
    rename_i c cs mem rest end_
    exact ⟨c, cs, rest, mem, end_.trans (between_concat a cs c).symm⟩
  · rintro ⟨c, cs, rfl, mem, rfl⟩
    exact .one rfl mem (between_concat a cs c)

theorem run_iff : Matches (.run s) i j ↔ j = i ∨ ∃ k, Matches (.one s) i k ∧ Matches (.run s) k j := by
  constructor
  · rintro (_ | _ | _)
    · exact .inl rfl
    · exact .inr ⟨_, ‹_›, ‹_›⟩
  · rintro (rfl | ⟨k, first, rest⟩)
    · exact .runNil
    · exact .runCons first rest

theorem run_nil_iff : Matches (.run s) (between a []) j ↔ j = between a [] := by
  rw [run_iff]
  simp [one_iff]

theorem run_cons_iff {c : Char} : Matches (.run s) (between a (c :: b)) j ↔
    j = between a (c :: b) ∨ s.mem c = true ∧ Matches (.run s) (between (a ++ [c]) b) j := by
  rw [run_iff]
  simp [one_iff]

theorem upTo_succ_iff : Matches (.upTo p (n + 1)) i j ↔
    j = i ∨ ∃ k, Matches p i k ∧ Matches (.upTo p n) k j := by
  constructor
  · rintro (_ | _)
    · exact .inl rfl
    · exact .inr ⟨_, ‹_›, ‹_›⟩
  · rintro (rfl | ⟨k, first, rest⟩)
    · exact .upToNil
    · exact .upToCons first rest

theorem upTo_zero_iff : Matches (.upTo p 0) i j ↔ j = i :=
  ⟨by rintro ⟨⟩; rfl, by rintro rfl; exact .upToNil⟩

theorem upTo_mono (h : Matches (.upTo p m) i j) (le : m ≤ n) : Matches (.upTo p n) i j := by
  induction m generalizing i n with
  | zero =>
    obtain rfl := upTo_zero_iff.mp h
    exact .upToNil
  | succ m ih =>
    obtain ⟨n, rfl⟩ : ∃ k, n = k + 1 := ⟨n - 1, by omega⟩
    obtain rfl | ⟨k, first, rest⟩ := upTo_succ_iff.mp h
    · exact .upToNil
    · exact .upToCons first (ih rest (by omega))

theorem star_of_upTo (h : Matches (.upTo p n) i j) : Matches (.star p) i j := by
  induction n generalizing i with
  | zero =>
    obtain rfl := upTo_zero_iff.mp h
    exact .starNil
  | succ n ih =>
    obtain rfl | ⟨k, first, rest⟩ := upTo_succ_iff.mp h
    · exact .starNil
    · exact .starCons first (ih rest)

/-- Matches of `p` that stay where they are can be left out of a repetition, and the others use up
text. -/
theorem upTo_of_star {q : Pattern} (h : Matches q i j) :
    ∀ p, q = .star p → Of text i → Matches (.upTo p i.rest.length) i j := by
  induction h with
  | starNil =>
    intros
    exact .upToNil
  | starCons first rest ih₁ ih₂ =>
    rintro _ ⟨⟩ hi
    have more := ih₂ _ rfl (first.of hi)
    obtain rfl | lt := first.eq_or_rest_lt hi
    · exact more
    · exact (upToCons first more).upTo_mono lt
  | _ => rintro _ ⟨⟩

end Matches

end Pattern

namespace Place

open Pattern (Matches run star upTo)

variable {text : List Char} {P Q : Place → Prop} {i : Place} {is js seen fresh : List Place}

/-- The list holds, in their order, the places of `text` with the property `P`. -/
structure Lists (text : List Char) (P : Place → Prop) (is : List Place) : Prop
    extends Ascending text is where
  mem_iff : ∀ j, j ∈ is ↔ P j

theorem Ascending.lists (h : Ascending text is) : Lists text (· ∈ is) is := ⟨h, fun _ => .rfl⟩

namespace Lists

theorem congr (h : Lists text P is) (same : ∀ j, P j ↔ Q j) : Lists text Q is :=
  ⟨h.toAscending, fun j => (h.mem_iff j).trans (same j)⟩

theorem nil (none : ∀ j, ¬P j) : Lists text P [] := ⟨.nil, by simpa using none⟩

theorem cons (hi : Of text i) (behind : ∀ j, P j → i.offset < j.offset) (h : Lists text P is) :
    Lists text (fun j => j = i ∨ P j) (i :: is) :=
  ⟨.cons hi (fun j hj => behind j ((h.mem_iff j).mp hj)) h.toAscending, by simp [h.mem_iff]⟩

theorem merge (hi : Lists text P is) (hj : Lists text Q js) :
    Lists text (fun j => P j ∨ Q j) (merge is js) :=
  ⟨ascending_merge hi.toAscending hj.toAscending,
    fun j => by rw [mem_merge hi.toAscending hj.toAscending, hi.mem_iff, hj.mem_iff]⟩

theorem minus (hi : Lists text P is) (hj : Lists text Q js) :
    Lists text (fun j => P j ∧ ¬Q j) (minus is js) :=
  ⟨ascending_minus hi.toAscending hj.toAscending,
    fun j => by rw [mem_minus hi.toAscending hj.toAscending, hi.mem_iff, hj.mem_iff]⟩

end Lists

/-- What runs of `s` reach from `starts` and, if `live`, from `i`. -/
def Swept (s : CharSet) (live : Bool) (i : Place) (starts : List Place) (j : Place) : Prop :=
  (live = true ∧ Matches (run s) i j) ∨ ∃ k ∈ starts, Matches (run s) k j

theorem Swept.offset_le {s : CharSet} {live : Bool} {n : Nat} {j : Place} (hi : Of text i)
    (ascending : Ascending text is) (from_ : n ≤ i.offset) (later : ∀ k ∈ is, n ≤ k.offset)
    (h : Swept s live i is j) : n ≤ j.offset := by
  obtain ⟨_, reached⟩ | ⟨k, mem, reached⟩ := h
  · exact Nat.le_trans from_ (reached.offset_le hi)
  · exact Nat.le_trans (later k mem) (reached.offset_le (ascending.places k mem))

section

variable {s : CharSet} {a b : List Char} {live : Bool} {starts : List Place}

theorem not_any_head (later : ∀ i ∈ starts, a.length < i.offset) :
    starts.head?.any (·.offset == a.length) = false := by
  cases starts with
  | nil => rfl
  | cons i is => simpa using Nat.ne_of_gt (later i List.mem_cons_self)

theorem sweep_here (later : ∀ i ∈ starts, a.length < i.offset) :
    sweep s live a.length a.getLast? b (between a b :: starts) =
      sweep s true a.length a.getLast? b starts := by
  have others := not_any_head later
  have here : (between a b).offset = a.length := rfl
  cases b <;> simp [sweep, others, here]

/-- What the sweep of one place has to do, the starts at that place being told by `live`. -/
def SweepsFrom (s : CharSet) (a b : List Char) : Prop := ∀ live starts,
  Ascending (a ++ b) starts → (∀ i ∈ starts, a.length < i.offset) →
    Lists (a ++ b) (Swept s live (between a b) starts)
      (sweep s live a.length a.getLast? b starts)

theorem SweepsFrom.lists (sweeps : SweepsFrom s a b) (live : Bool) (ascending : Ascending (a ++ b) starts)
    (fromHere : ∀ i ∈ starts, a.length ≤ i.offset) :
    Lists (a ++ b) (Swept s live (between a b) starts)
      (sweep s live a.length a.getLast? b starts) := by
  cases starts with
  | nil => exact sweeps live [] ascending (by simp)
  | cons i is =>
    by_cases here : i.offset = a.length
    · obtain rfl : i = between a b := ascending.head.eq_of_offset ⟨a, b, rfl, rfl⟩ here
      have later := ascending.lt
      rw [sweep_here later]
      refine (sweeps true is ascending.tail later).congr fun j => ?_
      simp only [Swept, List.exists_mem_cons_iff]
      tauto
    · refine sweeps live _ ascending fun j hj => ?_
      have atHead := fromHere i List.mem_cons_self
      obtain rfl | hj := List.mem_cons.mp hj
      · omega
      · exact Nat.lt_of_le_of_lt atHead (ascending.lt j hj)

theorem sweepsFrom (s : CharSet) (a b : List Char) : SweepsFrom s a b := by
  -- On the text that is left: a run that is alive here is alive at the next place if the character
  -- between them is one of `s`.
  induction b generalizing a with
  | nil =>
    intro live starts ascending later
    obtain rfl : starts = [] := List.eq_nil_iff_forall_not_mem.mpr fun i hi => by
      have inside := (ascending.places i hi).offset_add
      have behind := later i hi
      simp only [List.append_nil] at inside
      omega
    cases live with
    | false => exact .nil (by simp [Swept])
    | true =>
      refine (Lists.cons (P := fun _ => False) ⟨a, [], rfl, rfl⟩ (by simp) (.nil (by simp))).congr ?_
      simp [Swept, Matches.run_nil_iff]
  | cons c b ih =>
    intro live starts ascending later
    have text : a ++ [c] ++ b = a ++ c :: b := by simp
    have here : Of (a ++ c :: b) (between a (c :: b)) := ⟨a, c :: b, rfl, rfl⟩
    have next : Of (a ++ c :: b) (between (a ++ [c]) b) := ⟨a ++ [c], b, text.symm, rfl⟩
    have rest : ∀ live, Lists (a ++ c :: b) (Swept s live (between (a ++ [c]) b) starts)
        (sweep s live (a.length + 1) (some c) b starts) := by
      intro live
      have := (ih (a ++ [c])).lists live (text ▸ ascending)
        (by simpa using fun i hi => Nat.succ_le_of_lt (later i hi))
      simpa [text] using this
    rw [sweep]
    simp only [not_any_head later, Bool.or_false]
    cases live with
    | true =>
      refine (Lists.cons here (fun j hj => ?_) (rest (s.mem c))).congr fun j => ?_
      · exact hj.offset_le next ascending (by simp [between]) later
      · simp only [Swept, Matches.run_cons_iff, true_and, or_assoc]
    | false =>
      cases starts with
      | nil => exact .nil (by simp [Swept])
      | cons i is => exact (rest false).congr fun j => by simp [Swept]

theorem lists_runs (ascending : Ascending text is) :
    Lists text (fun j => ∃ i ∈ is, Matches (run s) i j) (runs s is) := by
  cases is with
  | nil => exact .nil (by simp)
  | cons i is =>
    obtain ⟨a, b, rfl, rfl⟩ := ascending.head
    refine ((sweepsFrom s a b).lists false ascending fun j hj => ?_).congr fun j => ?_
    · obtain rfl | hj := List.mem_cons.mp hj
      · exact Nat.le_refl _
      · exact Nat.le_of_lt (ascending.lt j hj)
    · simp [Swept]

end

section

variable {p : Pattern} {step : List Place → List Place} {n : Nat}

theorem mem_of_upTo (closed : ∀ i ∈ seen, ∀ j, Matches p i j → j ∈ seen) {i j : Place}
    (mem : i ∈ seen) (h : Matches (upTo p n) i j) : j ∈ seen := by
  induction n generalizing i with
  | zero =>
    obtain rfl := Matches.upTo_zero_iff.mp h
    exact mem
  | succ n ih =>
    obtain rfl | ⟨k, first, rest⟩ := Matches.upTo_succ_iff.mp h
    · exact mem
    · exact ih (closed i mem k first) rest

/-- The rounds of a repetition, if all that one more match reaches from `seen` is seen already,
`fresh` apart. -/
theorem lists_closure
    (steps : ∀ is, Ascending text is → Lists text (fun j => ∃ i ∈ is, Matches p i j) (step is))
    (hs : Ascending text seen) (hf : Ascending text fresh) (known : ∀ i ∈ fresh, i ∈ seen)
    (done : ∀ i ∈ seen, i ∉ fresh → ∀ j, Matches p i j → j ∈ seen) :
    Lists text (fun j => ∃ i ∈ seen, Matches (upTo p n) i j) (closure step n seen fresh) := by
  -- On the rounds left; `done` is the invariant, `seen` and `fresh` change with each round.
  induction n generalizing seen fresh with
  | zero => exact hs.lists.congr (by simp [Matches.upTo_zero_iff])
  | succ n ih =>
    have added := (steps fresh hf).minus hs.lists
    have reached : ∀ i ∈ seen, ∀ j, Matches p i j → j ∈ seen ∨ j ∈ minus (step fresh) seen := by
      intro i mem j first
      by_cases old : j ∈ seen
      · exact .inl old
      · by_cases young : i ∈ fresh
        · exact .inr ((added.mem_iff j).mpr ⟨⟨i, young, first⟩, old⟩)
        · exact .inl (done i mem young j first)
    rw [closure]
    cases eq : minus (step fresh) seen with
    | nil =>
      -- A round that adds nothing: one more match leads from `seen` to `seen`.
      have closed : ∀ i ∈ seen, ∀ j, Matches p i j → j ∈ seen := by simpa [eq] using reached
      refine hs.lists.congr fun j => ⟨fun mem => ⟨j, mem, .upToNil⟩, ?_⟩
      rintro ⟨i, mem, h⟩
      exact mem_of_upTo closed mem h
    | cons k ks =>
      rw [eq] at added reached
      have all := hs.lists.merge added.toAscending.lists
      refine (ih all.toAscending added.toAscending ?_ ?_).congr fun j => ?_
      · exact fun i mem => (all.mem_iff i).mpr (.inr mem)
      · intro i mem old j first
        obtain mem | young := (all.mem_iff i).mp mem
        · exact (all.mem_iff j).mpr (reached i mem j first)
        · exact absurd young old
      · simp only [all.mem_iff]
        constructor
        · rintro ⟨i, mem | young, h⟩
          · exact ⟨i, mem, h.upTo_mono (Nat.le_succ n)⟩
          · obtain ⟨⟨i', mem, first⟩, _⟩ := (added.mem_iff i).mp young
            exact ⟨i', known i' mem, .upToCons first h⟩
        · rintro ⟨i, mem, h⟩
          obtain rfl | ⟨k, first, rest⟩ := Matches.upTo_succ_iff.mp h
          · exact ⟨j, .inl mem, .upToNil⟩
          · exact ⟨k, reached i mem k first, rest⟩

/-- As many rounds as there are characters reach all that any number of rounds reaches. -/
theorem lists_closure_star
    (steps : ∀ is, Ascending text is → Lists text (fun j => ∃ i ∈ is, Matches p i j) (step is))
    (ascending : Ascending text is) (enough : ∀ i ∈ is, i.rest.length ≤ n) :
    Lists text (fun j => ∃ i ∈ is, Matches (star p) i j) (closure step n is is) := by
  refine (lists_closure steps ascending ascending (fun _ => id) ?_).congr fun j => ?_
  · exact fun i mem old => absurd mem old
  · constructor
    · rintro ⟨i, mem, h⟩
      exact ⟨i, mem, h.star_of_upTo⟩
    · rintro ⟨i, mem, h⟩
      exact ⟨i, mem, (h.upTo_of_star p rfl (ascending.places i mem)).upTo_mono (enough i mem)⟩

theorem Ascending.rest_length_le (h : Ascending text (i :: is)) :
    ∀ j ∈ i :: is, j.rest.length ≤ i.rest.length := by
  intro j hj
  obtain rfl | mem := List.mem_cons.mp hj
  · exact Nat.le_refl _
  · have first := h.head.offset_add
    have second := (h.places j hj).offset_add
    have lt := h.lt j mem
    omega

end

end Place

namespace Pattern

variable {text : List Char} {is : List Place}

theorem lists_one (s : CharSet) (ascending : Ascending text is) :
    Lists text (fun j => ∃ i ∈ is, Matches (one s) i j) ((one s).advance is) := by
  induction is with
  | nil => exact .nil (by simp)
  | cons i is ih =>
    obtain ⟨a, b, rfl, rfl⟩ := ascending.head
    have rest := ih ascending.tail
    cases b with
    | nil =>
      have none_ : ∀ j, ¬Matches (one s) (between a []) j := by simp [Matches.one_iff]
      have skip : (one s).advance (between a [] :: is) = (one s).advance is := by simp [advance]
      rw [skip]
      exact rest.congr (by simp [none_])
    | cons c b =>
      have only : ∀ j, Matches (one s) (between a (c :: b)) j ↔
          s.mem c = true ∧ j = between (a ++ [c]) b := by simp [Matches.one_iff]
      by_cases mem : s.mem c = true
      · have step : (one s).advance (between a (c :: b) :: is) =
            between (a ++ [c]) b :: (one s).advance is := by
          simp [advance, mem, next?_between]
        rw [step]
        refine (Lists.cons ⟨a ++ [c], b, by simp, rfl⟩ ?_ rest).congr (by simp [only, mem])
        rintro j ⟨i, hi, h⟩
        have behind := ascending.lt i hi
        obtain ⟨a', b', _, rfl⟩ := ascending.tail.places i hi
        obtain ⟨d, b', rfl, _, rfl⟩ := Matches.one_iff.mp h
        simpa [between] using behind
      · have skip : (one s).advance (between a (c :: b) :: is) = (one s).advance is := by
          simp [advance, mem]
        rw [skip]
        exact rest.congr (by simp [only, mem])

theorem advance_nil (p : Pattern) (lists : ∀ is, Ascending text is →
    Lists text (fun j => ∃ i ∈ is, Matches p i j) (p.advance is)) : p.advance [] = [] := by
  refine List.eq_nil_iff_forall_not_mem.mpr fun j hj => ?_
  simpa using ((lists [] .nil).mem_iff j).mp hj

/-- The search from the places listed reaches what matches reach, listed in order. -/
theorem lists_advance (p : Pattern) : ∀ is, Ascending text is →
    Lists text (fun j => ∃ i ∈ is, Matches p i j) (p.advance is) := by
  induction p with
  | empty => exact fun is ascending => ascending.lists.congr (by simp [Matches.empty_iff])
  | one s => exact fun is => lists_one s
  | run s => exact fun is => lists_runs
  | assert A =>
    intro is ascending
    refine ⟨ascending.filter A.holds, fun j => ?_⟩
    rw [advance, List.mem_filter]
    simp only [Matches.assert_iff]
    constructor
    · rintro ⟨mem, holds⟩
      exact ⟨j, mem, rfl, holds⟩
    · rintro ⟨i, mem, rfl, holds⟩
      exact ⟨mem, holds⟩
  | seq p q ihp ihq =>
    intro is ascending
    have half := ihp is ascending
    have same : (seq p q).advance is = q.advance (p.advance is) := by
      rw [advance]
      split
      next none_ => rw [none_, advance_nil q ihq]
      next some_ => rw [some_]
    rw [same]
    refine (ihq _ half.toAscending).congr fun j => ?_
    simp only [Matches.seq_iff]
    constructor
    · rintro ⟨k, mem, second⟩
      obtain ⟨i, mem, first⟩ := (half.mem_iff k).mp mem
      exact ⟨i, mem, k, first, second⟩
    · rintro ⟨i, mem, k, first, second⟩
      exact ⟨k, (half.mem_iff k).mpr ⟨i, mem, first⟩, second⟩
  | alt p q ihp ihq =>
    intro is ascending
    refine ((ihp is ascending).merge (ihq is ascending)).congr fun j => ?_
    simp only [Matches.alt_iff, and_or_left, exists_or]
  | star p ih =>
    intro is ascending
    rw [advance]
    refine lists_closure_star ih ascending ?_
    cases is with
    | nil => simp
    | cons i is => exact fun j mem => Nat.le_succ_of_le (ascending.rest_length_le j mem)
  | upTo p n ih =>
    intro is ascending
    exact lists_closure ih ascending ascending (fun _ => id) fun i mem old => absurd mem old

/-- A place is found as an end exactly if a match of `p` in the text ends there. -/
theorem mem_ends {p : Pattern} {j : Place} :
    j ∈ p.ends text ↔ ∃ i, Of text i ∧ Matches p i j := by
  rw [ends, (lists_advance p _ (ascending_allOf text)).mem_iff]
  simp only [mem_allOf]

end Pattern

end FixGrader
