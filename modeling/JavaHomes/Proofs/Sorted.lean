import Mathlib.Data.List.Induction
import JavaHomes.Sorted

/-!
The laws of ascending lists without repetition. Whatever is put in, the list stays strictly
ascending, and for each key it holds exactly one element: everything that was given for that key,
merged in the order in which it was given. A list is therefore settled by what was given for each
key, and when no key is given twice the order of giving does not matter.
-/

namespace JavaHomes.Sorted

open Std

variable {cmp : α → α → Ordering} {merge : α → α → α}

/-- Strictly ascending, so that no key stands twice. -/
def Ascending (cmp : α → α → Ordering) (xs : List α) : Prop :=
  xs.Pairwise fun a b => cmp a b = .lt

/-- Merging into an element leaves its key as it is. -/
def KeepsKey (cmp : α → α → Ordering) (merge : α → α → α) : Prop :=
  ∀ a b c, cmp (merge a b) c = cmp a c

/-- The elements of `xs` with the key of `k`. -/
def group (cmp : α → α → Ordering) (k : α) (xs : List α) : List α :=
  xs.filter fun a => cmp a k == .eq

/-- All elements merged into the first one, in their order. -/
def combined? (merge : α → α → α) : List α → Option α
  | [] => none
  | a :: rest => some (rest.foldl merge a)

theorem mem_group {k a : α} {xs : List α} : a ∈ group cmp k xs ↔ a ∈ xs ∧ cmp a k = .eq := by
  rw [group, List.mem_filter, beq_iff_eq]

theorem group_cons (k a : α) (xs : List α) :
    group cmp k (a :: xs) = if cmp a k = .eq then a :: group cmp k xs else group cmp k xs := by
  rw [group, List.filter_cons]
  by_cases h : cmp a k = .eq <;> simp [h, group]

theorem group_nil (k : α) : group cmp k [] = [] :=
  rfl

theorem group_append (k : α) (xs ys : List α) :
    group cmp k (xs ++ ys) = group cmp k xs ++ group cmp k ys :=
  List.filter_append ..

theorem exists_key_iff {k : α} {xs : List α} :
    (∃ a ∈ xs, cmp a k = .eq) ↔ group cmp k xs ≠ [] := by
  constructor
  · rintro ⟨a, ha, hak⟩
    exact List.ne_nil_of_mem (mem_group.mpr ⟨ha, hak⟩)
  · intro h
    obtain ⟨a, ha⟩ := List.exists_mem_of_ne_nil _ h
    exact ⟨a, mem_group.mp ha⟩

theorem ofList_append_singleton (xs : List α) (x : α) :
    ofList cmp merge (xs ++ [x]) = insert cmp merge x (ofList cmp merge xs) := by
  rw [ofList, List.foldl_append]
  rfl

theorem combined?_append_singleton (xs : List α) (x : α) :
    combined? merge (xs ++ [x]) = some ((combined? merge xs).elim x (merge · x)) := by
  cases xs with
  | nil => rfl
  | cons a rest => simp [combined?, List.foldl_append]

section

variable [TransCmp cmp]

theorem mem_group_self {a : α} {xs : List α} : a ∈ group cmp a xs ↔ a ∈ xs := by
  rw [mem_group, and_iff_left ReflCmp.compare_self]

/-- Nothing above `k` has the key of `k`. -/
theorem group_eq_nil {k : α} {xs : List α} (h : ∀ a ∈ xs, cmp k a = .lt) : group cmp k xs = [] := by
  rw [List.eq_nil_iff_forall_not_mem]
  intro a ha
  obtain ⟨hmem, heq⟩ := mem_group.mp ha
  rw [OrientedCmp.eq_comm, h a hmem] at heq
  exact Ordering.noConfusion heq

theorem lt_all_of_lt {x y : α} {ys : List α} (hxy : cmp x y = .lt) (h : Ascending cmp (y :: ys)) :
    ∀ a ∈ y :: ys, cmp x a = .lt := by
  intro a ha
  rcases List.mem_cons.mp ha with rfl | ha
  · exact hxy
  · exact TransCmp.lt_trans hxy (List.rel_of_pairwise_cons h ha)

/-- Two ascending lists with the same elements are the same list. -/
theorem Ascending.ext {xs ys : List α} (hx : Ascending cmp xs) (hy : Ascending cmp ys)
    (h : ∀ a, a ∈ xs ↔ a ∈ ys) : xs = ys := by
  have irrefl : ∀ a, cmp a a ≠ .lt := fun a => by simp [ReflCmp.compare_self]
  have nodup : ∀ {zs}, Ascending cmp zs → zs.Nodup := fun hz =>
    hz.imp fun {a b} hab => by rintro rfl; exact irrefl a hab
  have hperm : xs.Perm ys := (List.perm_ext_iff_of_nodup (nodup hx) (nodup hy)).mpr h
  refine hperm.eq_of_pairwise (fun a b _ _ hab hba => ?_) hx hy
  exact absurd hba (OrientedCmp.not_lt_of_lt hab)

theorem Ascending.group_eq {xs : List α} (h : Ascending cmp xs) {a : α} (ha : a ∈ xs) :
    group cmp a xs = [a] := by
  induction xs with
  | nil => cases ha
  | cons x xs ih =>
    rw [group_cons]
    have htail : Ascending cmp xs := h.tail
    rcases List.mem_cons.mp ha with rfl | ha
    · rw [if_pos ReflCmp.compare_self, group_eq_nil fun b hb => List.rel_of_pairwise_cons h hb]
    · rw [if_neg (by rw [List.rel_of_pairwise_cons h ha]; exact Ordering.noConfusion), ih htail ha]

/-- Where no key stands twice, a group has one element at most. -/
theorem group_of_distinct (k : α) {xs : List α} (h : xs.Pairwise fun a b => cmp a b ≠ .eq) :
    group cmp k xs = [] ∨ ∃ a, group cmp k xs = [a] := by
  have hdistinct : (group cmp k xs).Pairwise fun a b => cmp a b ≠ .eq := h.filter _
  match hgroup : group cmp k xs with
  | [] => exact .inl rfl
  | [a] => exact .inr ⟨a, rfl⟩
  | a :: b :: rest =>
    have ha : a ∈ group cmp k xs := by simp [hgroup]
    have hb : b ∈ group cmp k xs := by simp [hgroup]
    rw [hgroup] at hdistinct
    refine absurd ?_ (List.rel_of_pairwise_cons hdistinct List.mem_cons_self)
    exact TransCmp.eq_trans (mem_group.mp ha).2 (OrientedCmp.eq_symm (mem_group.mp hb).2)

variable (hmerge : KeepsKey cmp merge)

include hmerge

theorem mem_insert {x a : α} : ∀ {xs : List α}, a ∈ insert cmp merge x xs →
    cmp a x = .eq ∨ a ∈ xs
  | [], h => by
    rw [insert, List.mem_singleton] at h
    exact .inl (h ▸ ReflCmp.compare_self)
  | y :: ys, h => by
    rw [insert] at h
    split at h
    · rcases List.mem_cons.mp h with rfl | h
      · exact .inl ReflCmp.compare_self
      · exact .inr h
    · rename_i hxy
      rcases List.mem_cons.mp h with rfl | h
      · exact .inl (by rw [hmerge]; exact OrientedCmp.eq_symm hxy)
      · exact .inr (List.mem_cons_of_mem _ h)
    · rcases List.mem_cons.mp h with rfl | h
      · exact .inr List.mem_cons_self
      · exact (mem_insert h).imp_right (List.mem_cons_of_mem _)

theorem ascending_insert (x : α) :
    ∀ {xs : List α}, Ascending cmp xs → Ascending cmp (insert cmp merge x xs)
  | [], _ => List.pairwise_singleton ..
  | y :: ys, h => by
    rw [insert]
    split
    · rename_i hxy
      exact List.pairwise_cons.mpr ⟨lt_all_of_lt hxy h, h⟩
    · refine List.pairwise_cons.mpr ⟨fun a ha => ?_, h.tail⟩
      rw [hmerge]
      exact List.rel_of_pairwise_cons h ha
    · rename_i hxy
      refine List.pairwise_cons.mpr ⟨fun a ha => ?_, ascending_insert x h.tail⟩
      rcases mem_insert hmerge ha with hax | ha
      · rw [TransCmp.congr_right hax]
        exact OrientedCmp.lt_of_gt hxy
      · exact List.rel_of_pairwise_cons h ha

/-- Putting in `x` changes the group of its own key only, where it is merged into what is there. -/
theorem group_insert (k x : α) : ∀ {xs : List α}, Ascending cmp xs →
    group cmp k (insert cmp merge x xs) =
      if cmp x k = .eq then (combined? merge (group cmp k xs ++ [x])).toList else group cmp k xs
  | [], _ => by
    rw [insert, group_cons]
    rfl
  | y :: ys, h => by
    have hys : ∀ a ∈ ys, cmp y a = .lt := fun _ => List.rel_of_pairwise_cons h
    rw [insert]
    split
    · rename_i hxy
      rw [group_cons]
      by_cases hxk : cmp x k = .eq
      · have hlt : ∀ a ∈ y :: ys, cmp k a = .lt := fun a ha => by
          rw [← TransCmp.congr_left hxk]
          exact lt_all_of_lt hxy h a ha
        rw [if_pos hxk, if_pos hxk, group_eq_nil hlt]
        rfl
      · rw [if_neg hxk, if_neg hxk]
    · rename_i hxy
      rw [group_cons, group_cons, hmerge, TransCmp.congr_left (OrientedCmp.eq_symm hxy)]
      by_cases hxk : cmp x k = .eq
      · have hnil : group cmp k ys = [] := group_eq_nil fun a ha => by
          rw [← TransCmp.congr_left hxk, TransCmp.congr_left hxy]
          exact hys a ha
        rw [if_pos hxk, if_pos hxk, if_pos hxk, hnil]
        rfl
      · rw [if_neg hxk, if_neg hxk, if_neg hxk]
    · rename_i hxy
      rw [group_cons, group_cons, group_insert k x (List.Pairwise.of_cons h)]
      by_cases hxk : cmp x k = .eq
      · have hyk : cmp y k ≠ .eq := by
          rw [← TransCmp.congr_right hxk, OrientedCmp.lt_of_gt hxy]
          exact Ordering.noConfusion
        rw [if_pos hxk, if_pos hxk, if_neg hyk, if_neg hyk]
      · rw [if_neg hxk, if_neg hxk]

theorem ascending_ofList (xs : List α) : Ascending cmp (ofList cmp merge xs) := by
  induction xs using List.reverseRecOn with
  | nil => exact .nil
  | append_singleton xs x ih =>
    rw [ofList_append_singleton]
    exact ascending_insert hmerge x ih

/-- What the list holds for a key is everything that was given for it, merged. -/
theorem group_ofList (k : α) (xs : List α) :
    group cmp k (ofList cmp merge xs) = (combined? merge (group cmp k xs)).toList := by
  induction xs using List.reverseRecOn with
  | nil => rfl
  | append_singleton xs x ih =>
    rw [ofList_append_singleton, group_insert hmerge k x (ascending_ofList hmerge xs), ih,
      group_append, group_cons, group_nil]
    by_cases hxk : cmp x k = .eq
    · rw [if_pos hxk, if_pos hxk, combined?_append_singleton, combined?_append_singleton]
      cases combined? merge (group cmp k xs) <;> rfl
    · rw [if_neg hxk, if_neg hxk, List.append_nil]

theorem mem_ofList {a : α} {xs : List α} :
    a ∈ ofList cmp merge xs ↔ combined? merge (group cmp a xs) = some a := by
  have hgroup := group_ofList hmerge a xs
  constructor
  · intro ha
    rw [(ascending_ofList hmerge xs).group_eq ha] at hgroup
    cases h : combined? merge (group cmp a xs) with
    | none => simp [h] at hgroup
    | some c => simp_all
  · intro h
    rw [h] at hgroup
    have ha : a ∈ group cmp a (ofList cmp merge xs) := by simp [hgroup]
    exact (mem_group.mp ha).1

/-- A key is in the list exactly when it was given. -/
theorem exists_mem_ofList (k : α) (xs : List α) :
    (∃ a ∈ ofList cmp merge xs, cmp a k = .eq) ↔ ∃ x ∈ xs, cmp x k = .eq := by
  rw [exists_key_iff, exists_key_iff, group_ofList hmerge]
  cases group cmp k xs <;> simp [combined?]

/-- When no key is given twice, the list holds just what was given. -/
theorem mem_ofList_of_distinct {a : α} {xs : List α}
    (hxs : xs.Pairwise fun x y => cmp x y ≠ .eq) : a ∈ ofList cmp merge xs ↔ a ∈ xs := by
  have hself : a ∈ group cmp a xs ↔ a ∈ xs := mem_group_self
  rw [mem_ofList hmerge, ← hself]
  rcases group_of_distinct a hxs with h | ⟨b, h⟩
  · simp [h, combined?]
  · simp [h, combined?, eq_comm]

/-- When no key is given twice, the order of giving does not matter. -/
theorem ofList_perm {xs ys : List α} (hxs : xs.Pairwise fun a b => cmp a b ≠ .eq)
    (h : xs.Perm ys) : ofList cmp merge xs = ofList cmp merge ys := by
  have hys : ys.Pairwise fun a b => cmp a b ≠ .eq :=
    h.pairwise hxs fun hab hba => hab (OrientedCmp.eq_symm hba)
  refine (ascending_ofList hmerge xs).ext (ascending_ofList hmerge ys) fun a => ?_
  rw [mem_ofList_of_distinct hmerge hxs, mem_ofList_of_distinct hmerge hys, h.mem_iff]

end

end JavaHomes.Sorted
