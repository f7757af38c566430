import JavaHomes.Population
import JavaHomes.Registry

/-!
The orders behind every sorted answer. Paths are compared component by component and versions
number by number; both comparisons are total and transitive, versions that compare equal are equal,
and paths that compare equal have the same components.
-/

namespace JavaHomes

open Std

namespace Path

/-- The name that a step carries, empty for the others. -/
def Component.label : Component → String
  | .name n => n
  | _ => ""

namespace Component

/-- The comparison of steps is that of ranks and then of names. -/
theorem compare_eq_lex :
    Component.compare = compareLex (compareOn Component.rank) (compareOn Component.label) := by
  funext a b
  cases a <;> cases b <;> rfl

instance : TransCmp Component.compare :=
  compare_eq_lex ▸ inferInstance

instance : LawfulEqCmp Component.compare where
  compare_self := ReflCmp.compare_self
  eq_of_compare {a b} h := by
    rw [compare_eq_lex, compareLex_eq_eq] at h
    have hrank : a.rank = b.rank := LawfulEqCmp.eq_of_compare h.1
    have hlabel : a.label = b.label := LawfulEqCmp.eq_of_compare h.2
    cases a <;> cases b <;> simp_all [rank, label]

end Component

theorem compareComponents_eq_lex :
    ∀ a b, compareComponents a b = List.compareLex Component.compare a b
  | [], [] => rfl
  | [], _ :: _ => rfl
  | _ :: _, [] => rfl
  | a :: as, b :: bs => by
    rw [compareComponents, List.compareLex_cons_cons, compareComponents_eq_lex as bs]

theorem compare_eq (p q : Path) :
    p.compare q = List.compareLex Component.compare p.components q.components :=
  compareComponents_eq_lex ..

instance : TransCmp Path.compare where
  eq_swap {p q} := by
    rw [compare_eq, compare_eq]
    exact OrientedCmp.eq_swap
  isLE_trans {p q r} hpq hqr := by
    rw [compare_eq] at hpq hqr ⊢
    exact TransCmp.isLE_trans hpq hqr

/-- Paths compare equal exactly when they have the same components. -/
theorem compare_eq_eq {p q : Path} : p.compare q = .eq ↔ p.components = q.components := by
  rw [compare_eq]
  exact LawfulEqCmp.compare_eq_iff_eq

@[simp]
theorem same_iff {p q : Path} : p.same q = true ↔ p.compare q = .eq := by
  rw [Path.same, beq_iff_eq]

theorem same_self (p : Path) : p.same p = true :=
  same_iff.mpr ReflCmp.compare_self

theorem not_same_of_lt {p q : Path} (h : p.compare q = .lt) : ¬ p.same q := by
  rw [same_iff, h]
  decide

theorem not_same_symm {p q : Path} (h : ¬ p.same q) : ¬ q.same p := by
  rw [same_iff] at h ⊢
  exact fun hqp => h (OrientedCmp.eq_symm hqp)

end Path

namespace Version

theorem compare_eq_lex :
    Version.compare = compareLex (compareOn Version.major)
      (compareLex (compareOn Version.minor) (compareOn Version.patch)) := by
  funext a b
  rfl

instance : TransCmp Version.compare :=
  compare_eq_lex ▸ inferInstance

instance : TransOrd Version :=
  inferInstanceAs (TransCmp Version.compare)

instance : LawfulEqOrd Version where
  compare_self := ReflCmp.compare_self
  eq_of_compare {a b} h := by
    change Version.compare a b = .eq at h
    rw [compare_eq_lex, compareLex_eq_eq, compareLex_eq_eq] at h
    obtain ⟨hmajor, hminor, hpatch⟩ := h
    cases a
    cases b
    rw [Version.mk.injEq]
    exact ⟨LawfulEqCmp.eq_of_compare hmajor, LawfulEqCmp.eq_of_compare hminor,
      LawfulEqCmp.eq_of_compare hpatch⟩

end Version

/-- Things that are compared by a path of theirs are compared lawfully. -/
theorem Path.transCmp_by (home : α → Path) : TransCmp fun a b => (home a).compare (home b) where
  eq_swap := by
    intro a b
    exact OrientedCmp.eq_swap
  isLE_trans := by
    intro a b c hab hbc
    exact TransCmp.isLE_trans hab hbc

instance : TransCmp Candidate.compareHomes :=
  Path.transCmp_by Candidate.home

instance : TransCmp Installation.compareHomes :=
  Path.transCmp_by Installation.home

end JavaHomes
