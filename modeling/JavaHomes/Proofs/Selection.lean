import Mathlib.Data.List.Pairwise
import Mathlib.Data.List.TakeWhile
import JavaHomes.Proofs.Order
import JavaHomes.Proofs.Sorted
import JavaHomes.Selection

/-!
Which installation a request gets. With homes that differ, the admitted installations stand in one
strict order, whatever order they came in; a build gets the first current one or else the first of
all, and a test gets the shortest home among those with the newest version. A request fails only
when no installation is admitted.
-/

namespace JavaHomes

open Std

theorem Text.Utf8.encode_injective {s t : String} (h : encode s = encode t) : s = t :=
  String.toByteArray_inj.mp (ByteArray.ext (Array.toList_inj.mp h))

namespace Installation

variable {purpose : Purpose} {constraint : Option Constraint} {all all' : List Installation}

/-- No two installations have the same home. -/
def Distinct (all : List Installation) : Prop :=
  all.Pairwise fun a b => ¬ a.home.same b.home

/-- Whether a constraint, if there is one, admits an installation. -/
def Admitted (constraint : Option Constraint) (i : Installation) : Prop :=
  ∀ c ∈ constraint, c.admits i.version

instance (all : List Installation) : Decidable (Distinct all) :=
  inferInstanceAs (Decidable (List.Pairwise _ _))

instance (constraint : Option Constraint) (i : Installation) : Decidable (Admitted constraint i) :=
  inferInstanceAs (Decidable (∀ c ∈ constraint, _))

/-- Of a newer version, or of the same version with the lesser home. -/
def Before (i j : Installation) : Prop :=
  j.version < i.version ∨ i.version = j.version ∧ i.home.compare j.home = .lt

/-- Of a newer version, or of the same version with a shorter home, or one of the same length with
lesser octets. -/
def Shorter (i j : Installation) : Prop :=
  j.version < i.version ∨ i.version = j.version ∧
    (i.home.size < j.home.size ∨
      i.home.size = j.home.size ∧ compare i.home.octets j.home.octets = .lt)

/-- What a purpose prefers to all other candidates: for a build a current installation goes before
those that are not, a test does not look at the mark. -/
def Preferred (candidate : Installation → Prop) (i : Installation) : Purpose → Prop
  | .build =>
    (i.isCurrent = true ∧ ∀ j, candidate j → j.isCurrent = true → j ≠ i → Before i j) ∨
      (∀ j, candidate j → j.isCurrent = false) ∧ ∀ j, candidate j → j ≠ i → Before i j
  | .test => ∀ j, candidate j → j ≠ i → Shorter i j

theorem Distinct.eq_of_same (h : Distinct all) {i j : Installation} (hi : i ∈ all) (hj : j ∈ all)
    (hsame : i.home.same j.home) : i = j := by
  by_contra hne
  have : Symm fun a b : Installation => ¬ a.home.same b.home := ⟨fun _ _ => Path.not_same_symm⟩
  exact h.forall hi hj hne hsame

/-! ### The order by version -/

/-- The comparison by which installations are listed. -/
def compareVersions (a b : Installation) : Ordering :=
  (compare b.version a.version).then (a.home.compare b.home)

instance : TransCmp compareVersions :=
  inferInstanceAs (TransCmp
    (compareLex (fun a b => compareOn Installation.version b a) compareHomes))

theorem before_iff {i j : Installation} : Before i j ↔ compareVersions i j = .lt := by
  rw [compareVersions, Ordering.then_eq_lt, LawfulEqOrd.compare_eq_iff_eq, Before, eq_comm]
  rfl

theorem compareVersions_eq {i j : Installation} (h : compareVersions i j = .eq) :
    i.home.same j.home := by
  rw [compareVersions, Ordering.then_eq_eq] at h
  exact Path.same_iff.mpr h.2

theorem mem_byVersion {i : Installation} :
    i ∈ byVersion constraint all ↔ i ∈ all ∧ Admitted constraint i := by
  rw [byVersion, List.mem_mergeSort, List.mem_filter, Option.all_eq_true]
  rfl

theorem pairwise_byVersion (constraint : Option Constraint) (all : List Installation) :
    (byVersion constraint all).Pairwise fun a b => (compareVersions a b).isLE = true := by
  refine List.pairwise_mergeSort ?_ ?_ _
  · intro a b c hab hbc
    exact TransCmp.isLE_trans hab hbc
  · intro a b
    have hswap : compareVersions b a = (compareVersions a b).swap := OrientedCmp.eq_swap
    rw [hswap]
    cases compareVersions a b <;> rfl

theorem distinct_byVersion (h : Distinct all) : Distinct (byVersion constraint all) := by
  have hfilter := List.Pairwise.filter (fun i => constraint.all fun c => c.admits i.version) h
  exact (List.mergeSort_perm _ _).symm.pairwise hfilter Path.not_same_symm

/-- The admitted installations stand in a strict order. -/
theorem ascending_byVersion (h : Distinct all) :
    Sorted.Ascending compareVersions (byVersion constraint all) := by
  refine (pairwise_byVersion constraint all).imp₂ ?_ (distinct_byVersion h)
  intro a b hle hne
  cases hcmp : compareVersions a b with
  | lt => rfl
  | eq => exact absurd (compareVersions_eq hcmp) hne
  | gt => rw [hcmp] at hle; exact absurd hle (by decide)

/-- The order in which installations are enumerated does not show. -/
theorem byVersion_perm (hall : Distinct all) (hall' : Distinct all') (h : all.Perm all') :
    byVersion constraint all = byVersion constraint all' := by
  refine (ascending_byVersion hall).ext (ascending_byVersion hall') fun i => ?_
  rw [mem_byVersion, mem_byVersion, h.mem_iff]

/-! ### The choice for a build -/

theorem before_of_head {i : Installation} {rest : List Installation}
    (h : Sorted.Ascending compareVersions (i :: rest)) :
    ∀ j ∈ i :: rest, j ≠ i → Before i j := by
  intro j hj hne
  rcases List.mem_cons.mp hj with rfl | hj
  · exact absurd rfl hne
  · exact before_iff.mpr (List.rel_of_pairwise_cons h hj)

theorem forBuild?_eq_some {listed : List Installation} {i : Installation}
    (hlisted : Sorted.Ascending compareVersions listed) (h : forBuild? listed = some i) :
    i ∈ listed ∧ Preferred (· ∈ listed) i .build := by
  rw [forBuild?] at h
  split at h
  · rename_i k hfind
    obtain rfl := Option.some.inj h
    obtain ⟨hcurrent, before, after, rfl, hbefore⟩ := List.find?_eq_some_iff_append.mp hfind
    refine ⟨by simp, .inl ⟨hcurrent, fun j hj hj' hne => ?_⟩⟩
    have hafter : Sorted.Ascending compareVersions (k :: after) :=
      (List.pairwise_append.mp hlisted).2.1
    rcases List.mem_append.mp hj with hj | hj
    · have hnot := hbefore j hj
      rw [hj'] at hnot
      exact absurd hnot (by decide)
    · exact before_of_head hafter j hj hne
  · rename_i hfind
    match listed with
    | k :: rest =>
      obtain rfl := Option.some.inj h
      refine ⟨List.mem_cons_self, .inr ⟨fun j hj => ?_, before_of_head hlisted⟩⟩
      have hnone := List.find?_eq_none.mp hfind j hj
      rwa [Bool.not_eq_true] at hnone

/-! ### The choice for a test -/

instance : TransCmp compareSizes :=
  inferInstanceAs (TransCmp
    (compareLex (compareOn fun i : Installation => i.home.size)
      (compareOn fun i : Installation => i.home.octets)))

theorem same_of_compareSizes_eq {i j : Installation} (h : compareSizes i j = .eq) :
    i.home.same j.home := by
  rw [compareSizes, Ordering.then_eq_eq, LawfulEqOrd.compare_eq_iff_eq,
    LawfulEqOrd.compare_eq_iff_eq] at h
  have htext : i.home.text = j.home.text := Text.Utf8.encode_injective h.2
  have hhome : i.home = j.home := by
    rw [Path.mk.injEq]
    exact htext
  rw [hhome, Path.same_iff]
  exact ReflCmp.compare_self

/-- The better of two is one of them and no larger than either. -/
theorem smaller_spec (first a : Installation) :
    ∃ best, (if compareSizes a first == .lt then a else first) = best ∧ (best = a ∨ best = first) ∧
      (compareSizes best first).isLE = true ∧ (compareSizes best a).isLE = true := by
  by_cases hlt : compareSizes a first = .lt
  · refine ⟨a, if_pos (by rw [hlt]; rfl), .inl rfl, by rw [hlt]; rfl, ReflCmp.isLE_rfl⟩
  · refine ⟨first, if_neg (by rwa [beq_iff_eq]), .inr rfl, ReflCmp.isLE_rfl, ?_⟩
    have hswap : compareSizes first a = (compareSizes a first).swap := OrientedCmp.eq_swap
    rw [hswap]
    cases h : compareSizes a first with
    | lt => exact absurd h hlt
    | eq => rfl
    | gt => rfl

/-- The smallest of several installations is one of them, and none of them is smaller. -/
theorem smallest_spec (rest : List Installation) (first : Installation) :
    smallest first rest ∈ first :: rest ∧
      ∀ j ∈ first :: rest, (compareSizes (smallest first rest) j).isLE = true := by
  induction rest generalizing first with
  | nil =>
    refine ⟨List.mem_cons_self, fun j hj => ?_⟩
    rw [List.mem_singleton.mp hj]
    exact ReflCmp.isLE_rfl
  | cons a rest ih =>
    obtain ⟨best, hbest, hor, hfirst, ha⟩ := smaller_spec first a
    have hstep : smallest first (a :: rest) = smallest best rest := by
      rw [← hbest]
      rfl
    obtain ⟨hmem, hle⟩ := ih best
    have hleast := hle best List.mem_cons_self
    rw [hstep]
    refine ⟨?_, fun j hj => ?_⟩
    · rcases List.mem_cons.mp hmem with heq | hmem
      · rcases hor with rfl | rfl <;> simp [heq]
      · simp [hmem]
    · rcases List.mem_cons.mp hj with rfl | hj
      · exact TransCmp.isLE_trans hleast hfirst
      · rcases List.mem_cons.mp hj with rfl | hj
        · exact TransCmp.isLE_trans hleast ha
        · exact hle j (List.mem_cons_of_mem _ hj)

/-- In a list by version, nothing is newer than the first installation. -/
theorem version_le_of_compareVersions {i j : Installation} (h : compareVersions i j = .lt) :
    j.version = i.version ∨ j.version < i.version := by
  rcases before_iff.mpr h with hlt | ⟨heq, -⟩
  · exact .inr hlt
  · exact .inl heq.symm

/-- The installations with the newest version stand in front. -/
theorem mem_takeWhile_newest {first j : Installation} : ∀ {rest : List Installation},
    Sorted.Ascending compareVersions (first :: rest) → j ∈ rest → j.version = first.version →
      j ∈ rest.takeWhile fun i => i.version == first.version
  | a :: rest, h, hj, hversion => by
    have hfirst : compareVersions first a = .lt := List.rel_of_pairwise_cons h List.mem_cons_self
    have hskip : Sorted.Ascending compareVersions (first :: rest) :=
      h.sublist (.cons_cons _ (.cons _ (.refl _)))
    -- `a` stands between `first` and `j`, which have the same version
    have ha : a.version = first.version := by
      rcases List.mem_cons.mp hj with rfl | hj
      · exact hversion
      · have haj : compareVersions a j = .lt := List.rel_of_pairwise_cons h.of_cons hj
        rcases version_le_of_compareVersions hfirst with heq | hlt
        · exact heq
        · rcases version_le_of_compareVersions haj with heq | hlt'
          · rw [← heq, hversion]
          · rw [hversion] at hlt'
            exact absurd hlt' (OrientedCmp.not_lt_of_lt hlt)
    rw [List.takeWhile_cons_of_pos (by rw [ha, beq_self_eq_true])]
    rcases List.mem_cons.mp hj with rfl | hj
    · exact List.mem_cons_self
    · exact List.mem_cons_of_mem _ (mem_takeWhile_newest hskip hj hversion)

theorem forTest?_eq_some {listed : List Installation} {i : Installation}
    (hdistinct : Distinct listed) (hlisted : Sorted.Ascending compareVersions listed)
    (h : forTest? listed = some i) :
    i ∈ listed ∧ Preferred (· ∈ listed) i .test := by
  match listed with
  | first :: rest =>
    rw [forTest?, Option.some.injEq] at h
    obtain ⟨hmem, hleast⟩ :=
      smallest_spec (rest.takeWhile fun j => j.version == first.version) first
    rw [h] at hmem hleast
    have hnewest : i.version = first.version := by
      rcases List.mem_cons.mp hmem with rfl | hmem
      · rfl
      · have hbeq := List.mem_takeWhile_imp hmem
        exact beq_iff_eq.mp hbeq
    have hi : i ∈ first :: rest := by
      rcases List.mem_cons.mp hmem with rfl | hmem
      · exact List.mem_cons_self
      · exact List.mem_cons_of_mem _ (List.takeWhile_subset _ hmem)
    refine ⟨hi, fun j hj hne => ?_⟩
    have hversion : j.version = first.version ∨ j.version < first.version := by
      rcases List.mem_cons.mp hj with rfl | hj
      · exact .inl rfl
      · exact version_le_of_compareVersions (List.rel_of_pairwise_cons hlisted hj)
    rcases hversion with heq | hlt
    · refine .inr ⟨hnewest.trans heq.symm, ?_⟩
      have hle : (compareSizes i j).isLE = true := by
        rcases List.mem_cons.mp hj with rfl | hj
        · exact hleast _ List.mem_cons_self
        · exact hleast j (List.mem_cons_of_mem _ (mem_takeWhile_newest hlisted hj heq))
      cases hcmp : compareSizes i j with
      | lt =>
        rw [compareSizes, Ordering.then_eq_lt, LawfulEqOrd.compare_eq_iff_eq,
          Nat.compare_eq_lt] at hcmp
        exact hcmp
      | eq => exact absurd (hdistinct.eq_of_same hi hj (same_of_compareSizes_eq hcmp)).symm hne
      | gt =>
        rw [hcmp] at hle
        exact absurd hle (by decide)
    · exact .inl (hnewest ▸ hlt)

/-! ### Either choice -/

theorem forPurpose?_eq_some {listed : List Installation} {i : Installation}
    (hdistinct : Distinct listed) (hlisted : Sorted.Ascending compareVersions listed)
    (h : forPurpose? purpose listed = some i) :
    i ∈ listed ∧ Preferred (· ∈ listed) i purpose := by
  cases purpose with
  | build => exact forBuild?_eq_some hlisted h
  | test => exact forTest?_eq_some hdistinct hlisted h

theorem forPurpose?_eq_none {listed : List Installation} :
    forPurpose? purpose listed = none ↔ listed = [] := by
  cases listed with
  | nil => cases purpose <;> exact iff_of_true rfl rfl
  | cons first rest =>
    refine iff_of_false ?_ (List.cons_ne_nil _ _)
    cases purpose with
    | build =>
      rw [forPurpose?, forBuild?]
      split <;> simp
    | test => simp [forPurpose?, forTest?]

end Installation

namespace Registry

open Installation

variable {purpose : Purpose} {constraint : Option Constraint} {all all' : List Installation}

theorem choose_eq_ok {i : Installation} (hall : Distinct all)
    (h : choose purpose constraint all = .ok i) :
    (i ∈ all ∧ Admitted constraint i) ∧
      Preferred (fun j => j ∈ all ∧ Admitted constraint j) i purpose := by
  rw [choose] at h
  split at h
  · rename_i k hk
    obtain rfl := Except.ok.inj h
    obtain ⟨hmem, hpreferred⟩ :=
      forPurpose?_eq_some (distinct_byVersion hall) (ascending_byVersion hall) hk
    have hcandidates : (· ∈ byVersion constraint all) = fun j => j ∈ all ∧ Admitted constraint j :=
      funext fun j => propext mem_byVersion
    exact ⟨mem_byVersion.mp hmem, hcandidates ▸ hpreferred⟩
  · cases h

theorem choose_eq_error {f : SelectionFailure} (h : choose purpose constraint all = .error f) :
    f = .noneFound purpose constraint ∧ ∀ i ∈ all, ¬ Admitted constraint i := by
  rw [choose] at h
  split at h
  · cases h
  · rename_i hnone
    obtain rfl := Except.error.inj h
    refine ⟨rfl, fun i hi hadmitted => ?_⟩
    have hmem : i ∈ byVersion constraint all := mem_byVersion.mpr ⟨hi, hadmitted⟩
    rw [forPurpose?_eq_none.mp hnone] at hmem
    cases hmem

theorem choose_perm (hall : Distinct all) (h : all'.Perm all) :
    choose purpose constraint all' = choose purpose constraint all := by
  have hall' : Distinct all' := h.symm.pairwise hall Path.not_same_symm
  rw [choose, choose, byVersion_perm hall' hall h]

theorem filter_not_isSatisfiable {constraint : Option Constraint}
    (h : ∀ c ∈ constraint, c.isSatisfiable = true) :
    (constraint.filter fun c => !c.isSatisfiable) = none := by
  rw [Option.filter_eq_none_iff]
  intro c hc
  rw [h c hc]
  decide

/-- A request that leaves the choice open, and that some version can meet, is answered from the
population. -/
theorem select_eq_choose {t : FileTree} {prober : Prober} {finish : Completion} {r : Registry}
    {q : Requirement} (hoverride : q.override = none)
    (hsat : ∀ c ∈ q.constraint, c.isSatisfiable = true) :
    r.select t prober finish q =
      (some (choose q.purpose q.constraint (r.query t prober finish).1.installations),
        (r.query t prober finish).2) := by
  rw [select, hoverride, filter_not_isSatisfiable hsat]

/-- The answer to a request that leaves the choice open: a failure exactly if the population has no
installation that the constraint admits, and otherwise the admitted one that the purpose prefers to
all others. The order of the population does not matter. -/
theorem select_open {t : FileTree} {prober : Prober} {finish : Completion} {r : Registry}
    {q : Requirement} (hdistinct : Distinct (r.query t prober finish).1.installations)
    (hoverride : q.override = none) (hsat : ∀ c ∈ q.constraint, c.isSatisfiable = true) :
    ∃ result, (r.select t prober finish q).1 = some result ∧
      (result = .error (.noneFound q.purpose q.constraint) ↔
        ∀ i ∈ (r.query t prober finish).1.installations, ¬ Admitted q.constraint i) ∧
      (∀ f, result = .error f → f = .noneFound q.purpose q.constraint) ∧
      (∀ i, result = .ok i →
        (i ∈ (r.query t prober finish).1.installations ∧ Admitted q.constraint i) ∧
          Preferred
            (fun j => j ∈ (r.query t prober finish).1.installations ∧ Admitted q.constraint j)
            i q.purpose) ∧
      ∀ t' prober' finish' (r' : Registry),
        (r'.query t' prober' finish').1.installations.Perm
            (r.query t prober finish).1.installations →
          (r'.select t' prober' finish' q).1 = some result := by
  refine ⟨choose q.purpose q.constraint (r.query t prober finish).1.installations,
    by rw [select_eq_choose hoverride hsat], ?_, ?_, ?_, ?_⟩
  · constructor
    · intro h
      exact (choose_eq_error h).2
    · intro h
      cases hchoose : choose q.purpose q.constraint (r.query t prober finish).1.installations with
      | ok i =>
        obtain ⟨⟨hmem, hadmitted⟩, -⟩ := choose_eq_ok hdistinct hchoose
        exact absurd hadmitted (h i hmem)
      | error f => rw [(choose_eq_error hchoose).1]
  · intro f h
    exact (choose_eq_error h).1
  · intro i h
    exact choose_eq_ok hdistinct h
  · intro t' prober' finish' r' hperm
    rw [select_eq_choose hoverride hsat, choose_perm hdistinct hperm]

/-- Two installations of one version whose homes are equally long, and an older current one. -/
def rivals : List Installation :=
  [⟨⟨"/opt/jdk-b"⟩, "B", ⟨21, 0, 0⟩, .bits64, false⟩,
    ⟨⟨"/opt/jdk-a"⟩, "A", ⟨21, 0, 0⟩, .bits64, false⟩,
    ⟨⟨"/opt/jdk"⟩, "C", ⟨17, 0, 0⟩, .bits64, true⟩]

theorem select_open_rivals :
    Distinct rivals ∧ (∀ c ∈ some (Constraint.major 21), c.isSatisfiable = true) ∧
      ∃ i, (select ⟨[], ⟨"/"⟩⟩ (fun _ _ _ => .crashed) .inTurn
          ⟨{}, some ⟨rivals, ⟨3, 3, 0, 0⟩⟩, 1, []⟩ ⟨.test, some (.major 21), none⟩).1 =
            some (.ok i) ∧
        Preferred (fun j => j ∈ rivals ∧ Admitted (some (.major 21)) j) i .test := by
  have hdistinct : Distinct rivals := by decide
  have hsat : ∀ c ∈ some (Constraint.major 21), c.isSatisfiable = true := by decide
  refine ⟨hdistinct, hsat, ?_⟩
  obtain ⟨result, hselect, hnone, herror, hok, -⟩ :=
    @select_open ⟨[], ⟨"/"⟩⟩ (fun _ _ _ => .crashed) .inTurn
      ⟨{}, some ⟨rivals, ⟨3, 3, 0, 0⟩⟩, 1, []⟩ ⟨.test, some (.major 21), none⟩ hdistinct rfl hsat
  cases result with
  | ok i => exact ⟨i, hselect, (hok i rfl).2⟩
  | error f =>
    have hall := hnone.mp (by rw [herror f rfl])
    exact absurd (by decide) (hall ⟨⟨"/opt/jdk-a"⟩, "A", ⟨21, 0, 0⟩, .bits64, false⟩ (by decide))

end Registry

end JavaHomes
