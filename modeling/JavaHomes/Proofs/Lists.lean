import Mathlib.Data.List.TakeWhile

/-!
Laws of lists for which the library has no name: the last element of a property, and the elements of
a property that stand together.
-/

namespace JavaHomes.Lists

variable {α : Type*} {r : α → α → Prop} {p : α → Bool} {xs : List α} {x : α}

/-! ### Last elements -/

/-- Searching from the end finds the element of the property behind which there is no other. -/
theorem find?_reverse_eq_some_iff : xs.reverse.find? p = some x ↔
    p x = true ∧ ∃ front rest, xs = front ++ x :: rest ∧ ∀ y ∈ rest, p y = false := by
  rw [List.find?_eq_some_iff_append]
  refine and_congr_right' ⟨?_, ?_⟩
  · rintro ⟨rest, front, hreverse, hrest⟩
    refine ⟨front.reverse, rest.reverse, ?_, fun y hy => ?_⟩
    · rw [← List.reverse_reverse xs, hreverse]
      simp
    · simpa using hrest y (List.mem_reverse.mp hy)
  · rintro ⟨front, rest, rfl, hrest⟩
    refine ⟨rest.reverse, front.reverse, by simp, fun y hy => ?_⟩
    rw [hrest y (List.mem_reverse.mp hy), Bool.not_false]

/-- When an element has the property, there is a last one. -/
theorem exists_last (h : ∃ x ∈ xs, p x = true) : ∃ front x rest,
    xs = front ++ x :: rest ∧ p x = true ∧ ∀ y ∈ rest, p y = false := by
  have hfound : (xs.reverse.find? p).isSome = true := by
    simpa using h
  obtain ⟨x, hfind⟩ := Option.isSome_iff_exists.mp hfound
  obtain ⟨hx, front, rest, hxs, hrest⟩ := find?_reverse_eq_some_iff.mp hfind
  exact ⟨front, x, rest, hxs, hx, hrest⟩

/-- The last element, or else the one in front of the list, is the same wherever the first element
is counted. -/
theorem getLast?_cons_or (x : α) (xs : List α) (before : Option α) :
    (x :: xs).getLast?.or before = xs.getLast?.or (some x) := by
  rw [List.getLast?_cons, Option.some_or]
  cases xs.getLast? <;> rfl

/-! ### Blocks -/

/-- When every element in front of one of `p` is itself of `p`, those of `p` are the first ones. -/
theorem filter_eq_takeWhile (h : xs.Pairwise fun x y => p y = true → p x = true) :
    xs.filter p = xs.takeWhile p := by
  induction xs with
  | nil => rfl
  | cons x xs ih =>
    by_cases hx : p x = true
    · rw [List.filter_cons_of_pos hx, List.takeWhile_cons_of_pos hx, ih h.of_cons]
    · rw [List.takeWhile_cons_of_neg hx, List.filter_eq_nil_iff]
      intro y hy hpy
      rcases List.mem_cons.mp hy with rfl | hy
      · exact hx hpy
      · exact hx (List.rel_of_pairwise_cons h hy hpy)

/-- In an ordered list, the elements of a property without gaps stand together. -/
theorem isInfix_filter (hxs : xs.Pairwise r)
    (hp : ∀ x y z, r x y → r y z → p x = true → p z = true → p y = true) :
    xs.filter p <:+: xs := by
  induction xs with
  | nil => exact List.infix_refl []
  | cons x xs ih =>
    by_cases hx : p x = true
    · -- the others of `p` stand directly behind `x`
      have hfront : xs.Pairwise fun y z => p z = true → p y = true :=
        hxs.of_cons.imp_of_mem fun hy _ hyz hpz =>
          hp x _ _ (List.rel_of_pairwise_cons hxs hy) hyz hx hpz
      rw [List.filter_cons_of_pos hx, filter_eq_takeWhile hfront]
      exact ((List.prefix_cons_inj x).mpr (List.takeWhile_prefix p)).isInfix
    · rw [List.filter_cons_of_neg hx]
      exact List.infix_cons (ih hxs.of_cons)

end JavaHomes.Lists
