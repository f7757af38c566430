import Mathlib.Order.Interval.Set.OrdConnected
import Mathlib.Order.Std
import JavaHomes.Proofs.Order
import JavaHomes.Version.Constraint

/-!
Versions are linearly ordered, first number first, and every constraint admits an interval of them:
what lies between two admitted versions is admitted as well.
-/

namespace JavaHomes

open Std

namespace Version

variable {u v w : Version}

instance : LawfulOrderOrd Version where
  isLE_compare _ _ := Iff.rfl
  isGE_compare u v := by
    rw [OrientedOrd.eq_swap, Ordering.isGE_swap]
    exact Iff.rfl

instance : LawfulOrderLT Version where
  lt_iff u v := by
    change compare u v = .lt ↔ (compare u v).isLE = true ∧ ¬ (compare v u).isLE = true
    have hswap : compare v u = (compare u v).swap := OrientedCmp.eq_swap
    rw [hswap]
    cases compare u v <;> simp

instance : LinearOrder Version := .ofStd Version

/-- The order number by number. -/
theorem le_iff : u ≤ v ↔ u.major < v.major ∨ u.major = v.major ∧
    (u.minor < v.minor ∨ u.minor = v.minor ∧ u.patch ≤ v.patch) := by
  change (compare u v).isLE = true ↔ _
  rw [compare, Ordering.isLE_then_iff_or, Ordering.isLE_then_iff_or]
  simp only [compare_eq_lt, LawfulEqOrd.compare_eq_iff_eq, isLE_compare]

/-- A first number that stands at both ends stands in between. -/
theorem major_eq_of_between (huv : u ≤ v) (hvw : v ≤ w) (h : u.major = w.major) :
    v.major = u.major := by
  rw [le_iff] at huv hvw
  grind

theorem minor_eq_of_between (huv : u ≤ v) (hvw : v ≤ w) (h : u.major = w.major)
    (h' : u.minor = w.minor) : v.minor = u.minor := by
  rw [le_iff] at huv hvw
  grind

end Version

namespace Constraint

variable {v a b : Version}

theorem admits_atLeast : (atLeast a).admits v = true ↔ a ≤ v := by
  rw [admits, decide_eq_true_iff]

theorem admits_between : (between a b).admits v = true ↔ a ≤ v ∧ v < b := by
  rw [admits, Bool.and_eq_true, decide_eq_true_iff, decide_eq_true_iff]

/-- A constraint is satisfiable exactly when it admits some version. -/
theorem isSatisfiable_iff (c : Constraint) :
    c.isSatisfiable = true ↔ ∃ v, c.admits v = true := by
  cases c with
  | major n => exact iff_of_true rfl ⟨⟨n, 0, 0⟩, beq_self_eq_true n⟩
  | majorMinor n m =>
    refine iff_of_true rfl ⟨⟨n, m, 0⟩, ?_⟩
    rw [admits, beq_self_eq_true, beq_self_eq_true]
    rfl
  | atLeast least => exact iff_of_true rfl ⟨least, admits_atLeast.mpr le_rfl⟩
  | exact version => exact iff_of_true rfl ⟨version, beq_self_eq_true version⟩
  | between least bound =>
    simp only [admits_between]
    rw [isSatisfiable, decide_eq_true_iff]
    constructor
    · intro h
      exact ⟨least, le_rfl, h⟩
    · rintro ⟨v, hleast, hbound⟩
      exact hleast.trans_lt hbound

theorem isSatisfiable_eq_false_iff (c : Constraint) :
    c.isSatisfiable = false ↔ ∀ v, c.admits v = false := by
  rw [← Bool.not_eq_true, isSatisfiable_iff, not_exists]
  simp only [Bool.not_eq_true]

/-- The versions that a constraint admits have no gap. -/
theorem ordConnected_admits (c : Constraint) : {v | c.admits v = true}.OrdConnected := by
  cases c with
  | major n =>
    refine ⟨fun u hu w hw v ⟨huv, hvw⟩ => ?_⟩
    simp only [Set.mem_ofPred_eq, admits, beq_iff_eq] at hu hw ⊢
    rw [Version.major_eq_of_between huv hvw (hu.trans hw.symm), hu]
  | majorMinor n m =>
    refine ⟨fun u hu w hw v ⟨huv, hvw⟩ => ?_⟩
    simp only [Set.mem_ofPred_eq, admits, Bool.and_eq_true, beq_iff_eq] at hu hw ⊢
    have hmajor : u.major = w.major := hu.1.trans hw.1.symm
    rw [Version.major_eq_of_between huv hvw hmajor, hu.1,
      Version.minor_eq_of_between huv hvw hmajor (hu.2.trans hw.2.symm), hu.2]
    exact ⟨rfl, rfl⟩
  | atLeast least =>
    simp only [admits_atLeast]
    exact Set.ordConnected_Ici
  | exact version =>
    simp only [admits, beq_iff_eq]
    exact Set.ordConnected_singleton
  | between least bound =>
    simp only [admits_between]
    exact Set.ordConnected_Ico

end Constraint

end JavaHomes
