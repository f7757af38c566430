import JavaHomes.Proofs.Lists
import JavaHomes.Proofs.Selection
import JavaHomes.Proofs.VersionRange
import JavaHomes.Session

/-!
Installations listed by version. The whole list has all installations, newest first and by home
among equal versions. What a constraint admits is one block of it, since a constraint admits an
interval of versions; and an interval that is cut in two lists the newer part before the older one.
-/

namespace JavaHomes

namespace Installation

variable {all : List Installation} {a b d : Version}

/-! ### The list -/

theorem version_le_of_before {i j : Installation} (h : Before i j) : j.version ≤ i.version := by
  rcases h with hlt | ⟨heq, -⟩
  · exact le_of_lt hlt
  · exact heq.ge

theorem perm_byVersion (constraint : Option Constraint) (all : List Installation) :
    (byVersion constraint all).Perm
      (all.filter fun i => constraint.all fun c => c.admits i.version) :=
  List.mergeSort_perm _ _

theorem pairwise_before (constraint : Option Constraint) (h : Distinct all) :
    (byVersion constraint all).Pairwise Before :=
  (ascending_byVersion h).imp before_iff.mpr

/-- Listing what is admitted is the same as picking it from the whole list. -/
theorem byVersion_eq_filter (h : Distinct all) (c : Constraint) :
    byVersion (some c) all = (byVersion none all).filter fun i => c.admits i.version := by
  refine (ascending_byVersion h).ext ((ascending_byVersion h).filter _) fun i => ?_
  rw [List.mem_filter, mem_byVersion, mem_byVersion]
  simp [Admitted]

/-- What a constraint admits stands together in the whole list. -/
theorem isInfix_byVersion (h : Distinct all) (c : Constraint) :
    byVersion (some c) all <:+: byVersion none all := by
  rw [byVersion_eq_filter h]
  refine Lists.isInfix_filter (pairwise_before none h) ?_
  intro i j k hij hjk hi hk
  exact c.ordConnected_admits.out hk hi ⟨version_le_of_before hjk, version_le_of_before hij⟩

/-- An interval that is cut in two lists its newer part first. -/
theorem byVersion_between_append (h : Distinct all) (hab : a ≤ b) (hbd : b ≤ d) :
    byVersion (some (.between a d)) all =
      byVersion (some (.between b d)) all ++ byVersion (some (.between a b)) all := by
  have hmem (lo hi : Version) (i : Installation) : i ∈ byVersion (some (.between lo hi)) all ↔
      i ∈ all ∧ lo ≤ i.version ∧ i.version < hi := by
    rw [mem_byVersion, Admitted]
    simp [Constraint.admits_between]
  refine (ascending_byVersion h).ext ?_ fun i => ?_
  · refine List.pairwise_append.mpr ⟨ascending_byVersion h, ascending_byVersion h, ?_⟩
    intro i hi j hj
    have hnew : b ≤ i.version := ((hmem b d i).mp hi).2.1
    have hold : j.version < b := ((hmem a b j).mp hj).2.2
    exact before_iff.mp (.inl (hold.trans_le hnew))
  · rw [List.mem_append, hmem, hmem, hmem, ← and_or_left]
    refine and_congr_right fun _ => ⟨?_, ?_⟩
    · rintro ⟨hlow, hhigh⟩
      rcases le_or_gt b i.version with hb | hb
      · exact .inl ⟨hb, hhigh⟩
      · exact .inr ⟨hlow, hb⟩
    · rintro (⟨hlow, hhigh⟩ | ⟨hlow, hhigh⟩)
      · exact ⟨hab.trans hlow, hhigh⟩
      · exact ⟨hlow, hhigh.trans_le hbd⟩

end Installation

namespace Session

open Installation

/-- The answers of a session to questions by version, when the homes of its population differ: the
whole population in strict order; for each constraint what it admits, as one block of the whole; and
for an interval in two parts the newer part and then the older one. -/
theorem step_byVersion (s : Session) (h : Distinct s.query.1.installations) :
    ∃ listed : Option Constraint → List Installation,
      (∀ constraint, (s.step (.byVersion constraint)).1 = .ordered (listed constraint)) ∧
      (listed none).Perm s.query.1.installations ∧ (listed none).Pairwise Before ∧
      (∀ c, (listed (some c)).Perm
          (s.query.1.installations.filter fun i => c.admits i.version) ∧
        listed (some c) <:+: listed none) ∧
      ∀ a b d, a ≤ b → b ≤ d →
        listed (some (.between a d)) =
          listed (some (.between b d)) ++ listed (some (.between a b)) := by
  refine ⟨fun constraint => byVersion constraint s.query.1.installations, fun _ => rfl, ?_,
    pairwise_before none h, fun c => ⟨?_, isInfix_byVersion h c⟩, ?_⟩
  · exact (perm_byVersion none _).trans (.of_eq (List.filter_eq_self.mpr fun _ _ => rfl))
  · simpa using perm_byVersion (some c) s.query.1.installations
  · intro a b d hab hbd
    exact byVersion_between_append h hab hbd

/-- A session whose population is already there. -/
def amongRivals : Session :=
  ⟨⟨[], ⟨"/"⟩⟩, fun _ _ _ => .crashed, ⟨{}, some ⟨Registry.rivals, ⟨3, 3, 0, 0⟩⟩, 1, []⟩,
    fun _ => .inTurn⟩

theorem step_byVersion_rivals :
    Distinct amongRivals.query.1.installations ∧ ∃ newer older,
      (amongRivals.step (.byVersion (some (.between ⟨21, 0, 0⟩ ⟨22, 0, 0⟩)))).1 = .ordered newer ∧
      (amongRivals.step (.byVersion (some (.between ⟨17, 0, 0⟩ ⟨21, 0, 0⟩)))).1 = .ordered older ∧
      (amongRivals.step (.byVersion (some (.between ⟨17, 0, 0⟩ ⟨22, 0, 0⟩)))).1 =
        .ordered (newer ++ older) := by
  have hdistinct : Distinct amongRivals.query.1.installations := by decide
  obtain ⟨listed, hstep, -, -, -, hcut⟩ := step_byVersion amongRivals hdistinct
  refine ⟨hdistinct, _, _, hstep _, hstep _, ?_⟩
  rw [hstep, hcut ⟨17, 0, 0⟩ ⟨21, 0, 0⟩ ⟨22, 0, 0⟩ (by decide) (by decide)]

end Session

end JavaHomes
