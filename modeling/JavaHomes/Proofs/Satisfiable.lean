import JavaHomes.Proofs.ByVersion
import JavaHomes.Proofs.Override

/-!
Constraints that no version can satisfy. A request is refused for its constraint exactly when that
admits no version at all, and then nothing is lost by not looking: no list by version would have
had an entry. Whoever is told instead that nothing was found has asked for something that could have
been there.
-/

namespace JavaHomes

namespace Installation

/-- What no version satisfies is not listed. -/
theorem byVersion_eq_nil {c : Constraint} (h : ∀ v, c.admits v = false)
    (all : List Installation) : byVersion (some c) all = [] := by
  rw [List.eq_nil_iff_forall_not_mem]
  intro i hi
  have hadmits : c.admits i.version = true := (mem_byVersion.mp hi).2 c rfl
  rw [h i.version] at hadmits
  cases hadmits

end Installation

namespace Registry

variable {t : FileTree} {prober : Prober} {finish : Completion} {r : Registry} {q : Requirement}
  {purpose : Purpose} {constraint : Option Constraint} {c : Constraint}

/-- Only a constraint without versions is refused, and only if there is no explicit home. -/
theorem select_eq_unsatisfiable_iff :
    (r.select t prober finish q).1 = some (.error (.unsatisfiable c)) ↔
      q.override = none ∧ q.constraint = some c ∧ c.isSatisfiable = false := by
  constructor
  · intro h
    rcases select_forms t prober finish r q with
      ⟨path, -, heq⟩ | ⟨hoverride, d, hd, hunsat, heq⟩ | ⟨-, -, heq⟩
    all_goals rw [heq] at h
    · rcases explicitAnswer_eq_some h with ⟨i, -, hresult⟩ | ⟨f, -, hresult⟩ <;> cases hresult
    · cases h
      exact ⟨hoverride, hd, hunsat⟩
    · cases (choose_eq_error (Option.some.inj h)).1
  · rintro ⟨hoverride, hc, hunsat⟩
    rw [select_of_unsatisfiable hoverride hc hunsat]

/-- Nothing is found only where something was looked for. -/
theorem select_eq_noneFound
    (h : (r.select t prober finish q).1 = some (.error (.noneFound purpose constraint))) :
    purpose = q.purpose ∧ constraint = q.constraint ∧
      ∀ c ∈ q.constraint, c.isSatisfiable = true := by
  rcases select_forms t prober finish r q with
    ⟨path, -, heq⟩ | ⟨-, d, -, -, heq⟩ | ⟨-, hsat, heq⟩
  all_goals rw [heq] at h
  · rcases explicitAnswer_eq_some h with ⟨i, -, hresult⟩ | ⟨f, -, hresult⟩ <;> cases hresult
  · cases h
  · obtain ⟨hpurpose, hconstraint⟩ :=
      SelectionFailure.noneFound.inj (choose_eq_error (Option.some.inj h)).1
    exact ⟨hpurpose, hconstraint, hsat⟩

end Registry

namespace Session

/-- A constraint is satisfiable exactly when some version meets it. So a request, in any session, is
refused for its constraint exactly when it names no explicit home and no version at all meets the
constraint; the session is then left as it was, and no list by version under that constraint ever
has an entry. Where nothing is found, some version would have met the constraint. -/
theorem select_unsatisfiable (s : Session) (q : Requirement) :
    (∀ c : Constraint, c.isSatisfiable = true ↔ ∃ v, c.admits v = true) ∧
    (∀ c, (s.step (.select q)).1 = .selected (some (.error (.unsatisfiable c))) ↔
      q.override = none ∧ q.constraint = some c ∧ ∀ v, c.admits v = false) ∧
    (∀ c, (s.step (.select q)).1 = .selected (some (.error (.unsatisfiable c))) →
      (s.step (.select q)).2 = s ∧
        ∀ s' : Session, (s'.step (.byVersion (some c))).1 = .ordered []) ∧
    ∀ purpose constraint,
      (s.step (.select q)).1 = .selected (some (.error (.noneFound purpose constraint))) →
        purpose = q.purpose ∧ constraint = q.constraint ∧
          ∀ c ∈ q.constraint, ∃ v, c.admits v = true := by
  have hrefused : ∀ c, (s.step (.select q)).1 = .selected (some (.error (.unsatisfiable c))) ↔
      q.override = none ∧ q.constraint = some c ∧ c.isSatisfiable = false := fun c => by
    rw [step, Answer.selected.injEq]
    exact Registry.select_eq_unsatisfiable_iff
  refine ⟨Constraint.isSatisfiable_iff, fun c => ?_, fun c h => ?_, fun purpose constraint h => ?_⟩
  · rw [hrefused, Constraint.isSatisfiable_eq_false_iff]
  · obtain ⟨hoverride, hc, hunsat⟩ := (hrefused c).mp h
    refine ⟨?_, fun s' => ?_⟩
    · rw [step, Registry.select_of_unsatisfiable hoverride hc hunsat]
    · have hnil := Installation.byVersion_eq_nil (c.isSatisfiable_eq_false_iff.mp hunsat)
        s'.query.1.installations
      exact congrArg Answer.ordered hnil
  · rw [step, Answer.selected.injEq] at h
    obtain ⟨hpurpose, hconstraint, hsat⟩ := Registry.select_eq_noneFound h
    exact ⟨hpurpose, hconstraint, fun c hc => c.isSatisfiable_iff.mp (hsat c hc)⟩

/-- An interval whose ends are one and the same version, which is even listed. -/
theorem select_unsatisfiable_pointless :
    let c : Constraint := .between ⟨21, 0, 0⟩ ⟨21, 0, 0⟩
    (amongRivals.step (.select ⟨.build, some c, none⟩)).1 =
        .selected (some (.error (.unsatisfiable c))) ∧
      (amongRivals.step (.select ⟨.build, some c, none⟩)).2 = amongRivals ∧
      (amongRivals.step (.byVersion (some c))).1 = .ordered [] := by
  intro c
  obtain ⟨hsat, hiff, hkept, -⟩ := select_unsatisfiable amongRivals ⟨.build, some c, none⟩
  have hnever : ∀ v, c.admits v = false := by
    rw [← Constraint.isSatisfiable_eq_false_iff]
    decide
  have hrefused := (hiff c).mpr ⟨rfl, rfl, hnever⟩
  obtain ⟨hsame, hempty⟩ := hkept c hrefused
  exact ⟨hrefused, hsame, hempty amongRivals⟩

end Session

end JavaHomes
