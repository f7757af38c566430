import JavaHomes.Proofs.Sorted

/-!
The laws of ascending lists as maps. A key has the value that it was given last, whatever stands
there for other keys, and in a map that was built entry by entry each key stands once.
-/

namespace JavaHomes.Sorted

open Std

variable {κ : Type*} {β : Type*} {k : κ} {v : β} {map entries : List (κ × β)}

section

variable [DecidableEq κ]

theorem get?_cons (e : κ × β) (map : List (κ × β)) :
    get? k (e :: map) = if e.1 = k then some e.2 else get? k map := by
  rw [get?, List.find?_cons]
  by_cases h : e.1 = k
  · rw [if_pos h, beq_iff_eq.mpr h]
    rfl
  · rw [if_neg h, beq_eq_false_iff_ne.mpr h]
    rfl

/-- A map has a value for each key that stands in it. -/
theorem get?_ne_none (h : (k, v) ∈ map) : get? k map ≠ none := by
  rw [get?, ne_eq, Option.map_eq_none_iff, List.find?_eq_none]
  intro hnone
  exact hnone _ h (beq_self_eq_true k)

theorem mem_of_get? (h : get? k map = some v) : (k, v) ∈ map := by
  rw [get?, Option.map_eq_some_iff] at h
  obtain ⟨⟨k', v'⟩, hfind, rfl⟩ := h
  have hk : k' = k := beq_iff_eq.mp (List.find?_some hfind :)
  exact hk ▸ List.mem_of_find?_eq_some hfind

end

variable [Ord κ]

/-- A map with several entries put in, one after the other. -/
def putAll (entries map : List (κ × β)) : List (κ × β) :=
  entries.foldl (fun map e => insertKey e.1 e.2 map) map

theorem putAll_append (before after map : List (κ × β)) :
    putAll (before ++ after) map = putAll after (putAll before map) :=
  List.foldl_append

variable [LawfulEqOrd κ]

section

variable [DecidableEq κ]

/-- Putting in a key gives it its value and leaves all other keys as they are. -/
theorem get?_insertKey (k key : κ) (value : β) :
    ∀ map : List (κ × β), get? k (insertKey key value map) =
      if key = k then some value else get? k map
  | [] => get?_cons ..
  | e :: map => by
    have ih := get?_insertKey k key value map
    rw [insertKey] at ih ⊢
    rw [insert]
    split
    · exact get?_cons ..
    · rename_i heq
      have hkey : key = e.1 := Std.compare_eq_iff_eq.mp heq
      rw [get?_cons, get?_cons]
      by_cases hk : key = k
      · rw [if_pos hk, if_pos hk]
      · rw [if_neg hk, if_neg hk, if_neg (hkey ▸ hk)]
    -- the key goes further back, so the first entry keeps its place
    · rename_i hgt
      have hkey : key ≠ e.1 := fun h => by simp [Std.compare_eq_iff_eq.mpr h] at hgt
      rw [get?_cons, get?_cons, ih]
      by_cases hk : e.1 = k
      · rw [if_pos hk, if_pos hk, if_neg (hk ▸ hkey)]
      · rw [if_neg hk, if_neg hk]

theorem get?_putAll_of_forall_ne (map : List (κ × β)) (h : ∀ e ∈ entries, e.1 ≠ k) :
    get? k (putAll entries map) = get? k map := by
  induction entries generalizing map with
  | nil => rfl
  | cons e entries ih =>
    obtain ⟨hne, hrest⟩ := List.forall_mem_cons.mp h
    exact (ih _ hrest).trans ((get?_insertKey ..).trans (if_neg hne))

/-- The entry that was put in last for a key gives the value. -/
theorem get?_putAll_of_last (before : List (κ × β)) (map : List (κ × β))
    (h : ∀ e ∈ entries, e.1 ≠ k) :
    get? k (putAll (before ++ (k, v) :: entries) map) = some v := by
  rw [putAll_append]
  exact (get?_putAll_of_forall_ne _ h).trans ((get?_insertKey ..).trans (if_pos rfl))

end

/-- Merging keeps the key that stands there, since it is the same as the new one. -/
theorem insertKey_eq_insert (key : κ) (value : β) : ∀ map : List (κ × β),
    insertKey key value map =
      insert (fun a b => compare a.1 b.1) (fun old new => (old.1, new.2)) (key, value) map
  | [] => rfl
  | e :: map => by
    have ih := insertKey_eq_insert key value map
    rw [insertKey] at ih ⊢
    rw [insert, insert, ih]
    split
    · rfl
    · rename_i heq
      have hkey : key = e.1 := Std.compare_eq_iff_eq.mp heq
      rw [hkey]
    · rfl

variable [TransOrd κ]

instance transCmp_fst : TransCmp fun a b : κ × β => compare a.1 b.1 :=
  inferInstanceAs (TransCmp (compareOn Prod.fst))

theorem ascending_putAll (h : Ascending (fun a b => compare a.1 b.1) map) :
    Ascending (fun a b => compare a.1 b.1) (putAll entries map) := by
  have hkeeps : KeepsKey (fun a b : κ × β => compare a.1 b.1) fun old new => (old.1, new.2) :=
    fun _ _ _ => rfl
  induction entries generalizing map with
  | nil => exact h
  | cons e entries ih =>
    have hstep := ascending_insert hkeeps (e.1, e.2) h
    rw [← insertKey_eq_insert] at hstep
    exact ih hstep

/-- What stands in a map for a key is the value that the key has. -/
theorem Ascending.mem_iff_get? [DecidableEq κ] (h : Ascending (fun a b => compare a.1 b.1) map) :
    (k, v) ∈ map ↔ get? k map = some v := by
  refine ⟨fun hmem => ?_, mem_of_get?⟩
  obtain ⟨v', hv'⟩ := Option.ne_none_iff_exists'.mp (get?_ne_none hmem)
  have hother : (k, v') ∈ group (fun a b => compare a.1 b.1) (k, v) map :=
    mem_group.mpr ⟨mem_of_get? hv', ReflOrd.compare_self⟩
  rw [h.group_eq hmem, List.mem_singleton, Prod.mk.injEq] at hother
  rw [hv', hother.2]

end JavaHomes.Sorted
