import JavaHomes.Proofs.Discovery
import JavaHomes.Proofs.Properties

/-!
Which configurations lead to a service. For each purpose one text at most restricts the version: the
property of the purpose, and without one its field; blank texts count as absent. A service can be
made when all patterns of the vendor table and both of these texts can be read. Otherwise the first
one that cannot is the fault, whatever else is configured and whatever the machine looks like.
-/

namespace JavaHomes

/-! ### Vendor tables -/

/-- The pattern of the line is well formed. -/
def VendorPattern.Readable (line : VendorPattern) : Prop :=
  Pattern.ofString? line.pattern ≠ none

namespace VendorTable

variable {line : VendorPattern} {lines : List VendorPattern} {vendor : String} {p : Pattern}

theorem ofPatterns_cons_of_some (h : Pattern.ofString? line.pattern = some p)
    (lines : List VendorPattern) :
    ofPatterns (line :: lines) =
      (ofPatterns lines).map fun table => ⟨(line.vendor, p) :: table.entries⟩ := by
  have hentry : entry line = .ok (line.vendor, p) := by rw [entry, h]
  rw [ofPatterns, ofPatterns, List.mapM_cons, hentry]
  cases lines.mapM entry <;> rfl

theorem ofPatterns_cons_of_none (h : Pattern.ofString? line.pattern = none)
    (lines : List VendorPattern) : ofPatterns (line :: lines) = .error line.vendor := by
  have hentry : entry line = .error line.vendor := by rw [entry, h]
  rw [ofPatterns, List.mapM_cons, hentry]
  rfl

theorem exists_ofPatterns_eq_ok :
    (∃ table, ofPatterns lines = .ok table) ↔ ∀ line ∈ lines, line.Readable := by
  induction lines with
  | nil => exact ⟨fun _ _ h => absurd h List.not_mem_nil, fun _ => ⟨⟨[]⟩, rfl⟩⟩
  | cons line lines ih =>
    rw [List.forall_mem_cons, ← ih]
    cases h : Pattern.ofString? line.pattern with
    | none => simp [ofPatterns_cons_of_none h, VendorPattern.Readable, h]
    | some p =>
      rw [ofPatterns_cons_of_some h]
      cases ofPatterns lines <;> simp [Except.map, VendorPattern.Readable, h]

/-- The fault of a table is the vendor of the first line whose pattern is not well formed. -/
theorem ofPatterns_eq_error :
    ofPatterns lines = .error vendor ↔ ∃ before line after, lines = before ++ line :: after ∧
      (∀ l ∈ before, l.Readable) ∧ ¬ line.Readable ∧ line.vendor = vendor := by
  induction lines with
  | nil => simp [ofPatterns, Except.map, pure, Except.pure]
  | cons first lines ih =>
    cases h : Pattern.ofString? first.pattern with
    | none =>
      rw [ofPatterns_cons_of_none h, Except.error.injEq]
      constructor
      · rintro rfl
        exact ⟨[], first, lines, rfl, by simp, not_not_intro h, rfl⟩
      · rintro ⟨_ | ⟨l, before⟩, line, after, heq, hbefore, -, hvendor⟩
        · exact (List.cons.inj heq).1 ▸ hvendor
        · exact absurd h ((List.cons.inj heq).1 ▸ hbefore l List.mem_cons_self)
    | some p =>
      have hmap : ofPatterns (first :: lines) = .error vendor ↔
          ofPatterns lines = .error vendor := by
        rw [ofPatterns_cons_of_some h]
        cases ofPatterns lines <;> simp [Except.map]
      have hfirst : first.Readable := by simp [VendorPattern.Readable, h]
      rw [hmap, ih]
      constructor
      · rintro ⟨before, line, after, rfl, hbefore, hline, hvendor⟩
        exact ⟨first :: before, line, after, rfl,
          List.forall_mem_cons.mpr ⟨hfirst, hbefore⟩, hline, hvendor⟩
      · rintro ⟨_ | ⟨l, before⟩, line, after, heq, hbefore, hline, hvendor⟩
        · exact absurd ((List.cons.inj heq).1 ▸ hfirst) hline
        · exact ⟨before, line, after, (List.cons.inj heq).2, (List.forall_mem_cons.mp hbefore).2,
            hline, hvendor⟩

end VendorTable

/-! ### Constraints and overrides -/

/-- Where a configuration can say something about a purpose. -/
structure Places where
  /-- The property that restricts the version. -/
  version : String
  /-- The property that names a home. -/
  home : String
  /-- The field that restricts the version, by its written name and by its content. -/
  field : String
  text : Config → Option String

/-- The properties and the field that are about a build and those that are about a test. -/
def Purpose.places : Purpose → Places
  | .build =>
    { version := "buildJavaVersion", home := "buildJavaHome", field := "buildConstraint",
      text := Config.buildConstraint }
  | .test =>
    { version := "testJavaVersion", home := "testJavaHome", field := "testConstraint",
      text := Config.testConstraint }

namespace Config

variable {c c' : Config} {p : Purpose} {source text : String} {fault : ConfigFault}

theorem versionProperty_eq (p : Purpose) : p.versionProperty = p.places.version := by
  cases p <;> rfl

theorem homeProperty_eq (p : Purpose) : p.homeProperty = p.places.home := by
  cases p <;> rfl

theorem constraintField_eq (p : Purpose) : p.constraintField = p.places.field := by
  cases p <;> rfl

theorem constraintText_eq (c : Config) (p : Purpose) : c.constraintText p = p.places.text c := by
  cases p <;> rfl

/-- The text that a property holds, if it is not blank, is what restricts the version for a purpose;
without such a text it is what the field holds, if that is not blank. -/
inductive Restricts (c : Config) (p : Purpose) : (source text : String) → Prop
  | property {raw : String} : Sorted.get? p.places.version c.properties = some raw →
      Text.isBlankText raw.toList = false →
      Restricts c p p.places.version (Text.trimString raw)
  | field {raw : String} :
      (∀ value, Sorted.get? p.places.version c.properties = some value →
        Text.isBlankText value.toList = true) →
      p.places.text c = some raw → Text.isBlankText raw.toList = false →
      Restricts c p p.places.field (Text.trimString raw)

/-- What restricts the version for a purpose, if anything does, can be read. -/
def Readable (c : Config) (p : Purpose) : Prop :=
  ∀ source text, c.Restricts p source text → ∃ k, Constraint.parse text = .ok k

theorem constraintSource?_eq_some :
    c.constraintSource? p = some (source, text) ↔ c.Restricts p source text := by
  rw [constraintSource?, versionProperty_eq, constraintField_eq, constraintText_eq]
  cases hproperty : c.property? p.places.version with
  | some value =>
    obtain ⟨raw, hraw, hblank, rfl⟩ := property?_eq_some.mp hproperty
    constructor
    · rintro ⟨⟩
      exact .property hraw hblank
    · rintro (⟨hraw', hblank'⟩ | ⟨hall, -, -⟩)
      · cases hraw.symm.trans hraw'
        rfl
      · exact absurd (hall raw hraw) (hblank ▸ Bool.false_ne_true)
  | none =>
    have hall := property?_eq_none.mp hproperty
    simp only [Option.map_eq_some_iff, Option.bind_eq_some_iff, notBlank?_eq_some, Prod.mk.injEq]
    constructor
    · rintro ⟨-, ⟨raw, hraw, hblank, rfl⟩, rfl, rfl⟩
      exact .field hall hraw hblank
    · rintro (⟨hraw, hblank⟩ | ⟨-, hraw, hblank⟩)
      · exact absurd (hall _ hraw) (hblank ▸ Bool.false_ne_true)
      · exact ⟨_, ⟨_, hraw, hblank, rfl⟩, rfl, rfl⟩

theorem Restricts.unique {source' text' : String} (h : c.Restricts p source text)
    (h' : c.Restricts p source' text') : source = source' ∧ text = text' := by
  have hsame := (constraintSource?_eq_some.mpr h).symm.trans (constraintSource?_eq_some.mpr h')
  rwa [Option.some.injEq, Prod.mk.injEq] at hsame

/-- A configuration has no constraint, the one of the restricting text, or the fault of that. -/
theorem constraint_cases (c : Config) (p : Purpose) :
    ((∀ source text, ¬ c.Restricts p source text) ∧ c.constraint p = .ok none) ∨
    (∃ source text k, c.Restricts p source text ∧ Constraint.parse text = .ok k ∧
      c.constraint p = .ok (some k)) ∨
    ∃ source text reason, c.Restricts p source text ∧ Constraint.parse text = .error reason ∧
      c.constraint p = .error (.constraint source reason) := by
  cases hsource : c.constraintSource? p with
  | none =>
    refine .inl ⟨fun source text h => ?_, by rw [constraint, hsource]⟩
    cases hsource.symm.trans (constraintSource?_eq_some.mpr h)
  | some place =>
    obtain ⟨source, text⟩ := place
    have hrestricts := constraintSource?_eq_some.mp hsource
    cases hparse : Constraint.parse text with
    | ok k =>
      exact .inr (.inl ⟨source, text, k, hrestricts, hparse,
        by simp only [constraint, hsource, hparse]⟩)
    | error reason =>
      exact .inr (.inr ⟨source, text, reason, hrestricts, hparse,
        by simp only [constraint, hsource, hparse]⟩)

theorem exists_constraint_eq_ok : (∃ k, c.constraint p = .ok k) ↔ c.Readable p := by
  obtain ⟨hnone, h⟩ | ⟨source, text, k, hrestricts, hparse, h⟩ |
    ⟨source, text, reason, hrestricts, hparse, h⟩ := constraint_cases c p
  · exact ⟨fun _ source text hrestricts => absurd hrestricts (hnone source text),
      fun _ => ⟨none, h⟩⟩
  · refine ⟨fun _ source' text' hrestricts' => ⟨k, ?_⟩, fun _ => ⟨some k, h⟩⟩
    rw [← (hrestricts.unique hrestricts').2, hparse]
  · constructor
    · rintro ⟨k, hk⟩
      cases h.symm.trans hk
    · intro hreadable
      obtain ⟨k, hk⟩ := hreadable source text hrestricts
      cases hparse.symm.trans hk

theorem constraint_eq_error : c.constraint p = .error fault ↔ ∃ source text reason,
    c.Restricts p source text ∧ Constraint.parse text = .error reason ∧
      fault = .constraint source reason := by
  constructor
  · intro hfault
    obtain ⟨-, h⟩ | ⟨_, _, _, _, _, h⟩ | ⟨source, text, reason, hrestricts, hparse, h⟩ :=
      constraint_cases c p
    · cases h.symm.trans hfault
    · cases h.symm.trans hfault
    · exact ⟨source, text, reason, hrestricts, hparse, Except.error.inj (hfault.symm.trans h)⟩
  · rintro ⟨source, text, reason, hrestricts, hparse, rfl⟩
    simp only [constraint, constraintSource?_eq_some.mpr hrestricts, hparse]

/-- The constraint of a configuration is the one that the restricting text stands for. -/
theorem constraint_eq_some_iff {k : Option Constraint} (h : c.constraint p = .ok k)
    (k' : Constraint) : k = some k' ↔
      ∃ source text, c.Restricts p source text ∧ Constraint.parse text = .ok k' := by
  constructor
  · rintro rfl
    obtain ⟨-, h'⟩ | ⟨source, text, k, hrestricts, hparse, h'⟩ | ⟨_, _, _, _, _, h'⟩ :=
      constraint_cases c p
    · cases h.symm.trans h'
    · cases h.symm.trans h'
      exact ⟨source, text, hrestricts, hparse⟩
    · cases h.symm.trans h'
  · rintro ⟨source, text, hrestricts, hparse⟩
    simp only [constraint, constraintSource?_eq_some.mpr hrestricts, hparse] at h
    exact (Except.ok.inj h).symm

/-- What a request for a purpose says: the constraint of the restricting text, and the home that the
purpose's property names unless it is blank. -/
structure Requests (c : Config) (p : Purpose) (q : Requirement) : Prop where
  purpose : q.purpose = p
  constraint (k : Constraint) : q.constraint = some k ↔
    ∃ source text, c.Restricts p source text ∧ Constraint.parse text = .ok k
  override (path : Path) : q.override = some path ↔
    ∃ raw, Sorted.get? p.places.home c.properties = some raw ∧
      Text.isBlankText raw.toList = false ∧ path = ⟨Text.trimString raw⟩

theorem requests_of_requirement {q : Requirement} (h : c.requirement p = .ok q) :
    c.Requests p q := by
  rw [requirement] at h
  cases hconstraint : c.constraint p with
  | error fault =>
    rw [hconstraint] at h
    cases h
  | ok k =>
    rw [hconstraint] at h
    cases h
    exact {
      purpose := rfl
      constraint := constraint_eq_some_iff hconstraint
      override := fun _ => homeProperty_eq p ▸ override?_eq_some }

/-- The constraint depends on the property, and on a field that is not blank only without it. -/
theorem constraint_congr
    (hproperty : c.property? p.versionProperty = c'.property? p.versionProperty)
    (hfield : c'.property? p.versionProperty = none →
      (c.constraintText p).bind notBlank? = (c'.constraintText p).bind notBlank?) :
    c.constraint p = c'.constraint p := by
  have hsource : c.constraintSource? p = c'.constraintSource? p := by
    rw [constraintSource?, constraintSource?, hproperty]
    cases h : c'.property? p.versionProperty with
    | some text => rfl
    | none => rw [hfield h]
  rw [constraint, constraint, hsource]

/-- Two configurations say the same about a purpose. -/
structure SameFor (p : Purpose) (c c' : Config) : Prop where
  version : Sorted.get? p.places.version c.properties = Sorted.get? p.places.version c'.properties
  home : Sorted.get? p.places.home c.properties = Sorted.get? p.places.home c'.properties
  text : p.places.text c = p.places.text c'

theorem requirement_congr (h : SameFor p c c') : c.requirement p = c'.requirement p := by
  have hversion : c.property? p.versionProperty = c'.property? p.versionProperty := by
    rw [versionProperty_eq, property?, property?, h.version]
  have hconstraint : c.constraint p = c'.constraint p :=
    constraint_congr hversion fun _ => by rw [constraintText_eq, constraintText_eq, h.text]
  rw [requirement, requirement, hconstraint, override?, override?, homeProperty_eq, property?,
    property?, h.home]

/-- A configuration with another text in the field of a purpose. -/
def withConstraintText (c : Config) (text : Option String) : Purpose → Config
  | .build => { c with buildConstraint := text }
  | .test => { c with testConstraint := text }

theorem property?_withConstraintText (field : Option String) (p : Purpose) (name : String) :
    (c.withConstraintText field p).property? name = c.property? name := by
  cases p <;> rfl

theorem constraintText_withConstraintText (field : Option String) (p : Purpose) :
    (c.withConstraintText field p).constraintText p = field := by
  cases p <;> rfl

theorem constraintText_withConstraintText_of_ne {q : Purpose} (h : q ≠ p) (field : Option String) :
    (c.withConstraintText field p).constraintText q = c.constraintText q := by
  cases p <;> cases q <;> first | rfl | exact absurd rfl h

/-- A field whose property is set does not count. -/
theorem constraint_withConstraintText {raw : String}
    (hraw : Sorted.get? p.places.version c.properties = some raw)
    (hblank : Text.isBlankText raw.toList = false) (field : Option String) (q : Purpose) :
    (c.withConstraintText field p).constraint q = c.constraint q := by
  have hset : c.property? p.versionProperty ≠ none := by
    rw [versionProperty_eq, property?_eq_some.mpr ⟨raw, hraw, hblank, rfl⟩]
    exact Option.some_ne_none _
  refine constraint_congr (property?_withConstraintText ..) fun hnone => ?_
  have hne : q ≠ p := fun heq => hset (heq ▸ hnone)
  rw [constraintText_withConstraintText_of_ne hne]

/-- A blank field is none. -/
theorem constraint_withConstraintText_blank {raw : String}
    (h : Text.isBlankText raw.toList = true) (p q : Purpose) :
    (c.withConstraintText (some raw) p).constraint q =
      (c.withConstraintText none p).constraint q := by
  refine constraint_congr (by simp only [property?_withConstraintText]) fun _ => ?_
  by_cases hq : q = p
  · subst hq
    rw [constraintText_withConstraintText, constraintText_withConstraintText]
    exact notBlank?_eq_none.mpr h
  · rw [constraintText_withConstraintText_of_ne hq, constraintText_withConstraintText_of_ne hq]

/-- The home that is named for a purpose has no bearing on what restricts the versions. -/
theorem constraint_setProperty (home : String) (p q : Purpose) :
    (c.setProperty p.places.home home).constraint q = c.constraint q := by
  have hne : p.places.home ≠ q.versionProperty := by cases p <;> cases q <;> decide
  refine constraint_congr ?_ fun _ => by cases q <;> rfl
  rw [property?_setProperty, if_neg hne]

/-- The first fault of a configuration: the vendor table comes first, line by line, then what
restricts the build, then what restricts the tests. -/
inductive FirstFault (c : Config) : ConfigFault → Prop
  | vendor {before after : List VendorPattern} {line : VendorPattern} :
      c.probe.vendors = before ++ line :: after → (∀ l ∈ before, l.Readable) → ¬ line.Readable →
      FirstFault c (.vendorPattern line.vendor)
  | build {source text : String} {reason : VersionFault} :
      (∀ line ∈ c.probe.vendors, line.Readable) → c.Restricts .build source text →
      Constraint.parse text = .error reason → FirstFault c (.constraint source reason)
  | test {source text : String} {reason : VersionFault} :
      (∀ line ∈ c.probe.vendors, line.Readable) → c.Readable .build →
      c.Restricts .test source text → Constraint.parse text = .error reason →
      FirstFault c (.constraint source reason)

end Config

/-! ### Services -/

namespace Service

variable {t : FileTree} {env : Environment} {c c' : Config} {fault : ConfigFault}

/-- How making a service can go: the vendor table, the constraint of the build and that of the tests
are read in this order, and the first fault among them ends it. -/
theorem ofConfig_cases (t : FileTree) (env : Environment) (c : Config) :
    (∃ vendor, VendorTable.ofPatterns c.probe.vendors = .error vendor ∧
      ofConfig t env c = .error (.vendorPattern vendor)) ∨
    (∃ table fault, VendorTable.ofPatterns c.probe.vendors = .ok table ∧
      c.constraint .build = .error fault ∧ ofConfig t env c = .error fault) ∨
    (∃ table build fault, VendorTable.ofPatterns c.probe.vendors = .ok table ∧
      c.constraint .build = .ok build ∧ c.constraint .test = .error fault ∧
      ofConfig t env c = .error fault) ∨
    ∃ table build test s, VendorTable.ofPatterns c.probe.vendors = .ok table ∧
      c.constraint .build = .ok build ∧ c.constraint .test = .ok test ∧
      ofConfig t env c = .ok s := by
  simp only [ofConfig, ProbeConfig.prober, withProber, Config.requirement]
  cases VendorTable.ofPatterns c.probe.vendors with
  | error vendor => exact .inl ⟨vendor, rfl, rfl⟩
  | ok table =>
    refine .inr ?_
    cases c.constraint .build with
    | error fault => exact .inl ⟨table, fault, rfl, rfl, rfl⟩
    | ok build =>
      refine .inr ?_
      cases c.constraint .test with
      | error fault => exact .inl ⟨table, build, fault, rfl, rfl, rfl, rfl⟩
      | ok test => exact .inr ⟨table, build, test, _, rfl, rfl, rfl, rfl⟩

theorem exists_ofConfig_eq_ok : (∃ s, ofConfig t env c = .ok s) ↔
    (∃ table, VendorTable.ofPatterns c.probe.vendors = .ok table) ∧
      ∀ p, ∃ k, c.constraint p = .ok k := by
  obtain ⟨vendor, hvendors, h⟩ | ⟨table, fault, hvendors, hbuild, h⟩ |
    ⟨table, build, fault, hvendors, hbuild, htest, h⟩ |
    ⟨table, build, test, s, hvendors, hbuild, htest, h⟩ := ofConfig_cases t env c
  · simp [hvendors, h]
  · have hnone : ¬ ∃ k, c.constraint .build = .ok k := by simp [hbuild]
    simp only [h, reduceCtorEq, exists_false, false_iff, not_and]
    exact fun _ hall => hnone (hall .build)
  · have hnone : ¬ ∃ k, c.constraint .test = .ok k := by simp [htest]
    simp only [h, reduceCtorEq, exists_false, false_iff, not_and]
    exact fun _ hall => hnone (hall .test)
  · refine ⟨fun _ => ⟨⟨table, hvendors⟩, fun p => ?_⟩, fun _ => ⟨s, h⟩⟩
    cases p with
    | build => exact ⟨build, hbuild⟩
    | test => exact ⟨test, htest⟩

theorem ofConfig_eq_error : ofConfig t env c = .error fault ↔ c.FirstFault fault := by
  constructor
  · intro hfault
    obtain ⟨vendor, hvendors, h⟩ | ⟨table, fault, hvendors, hbuild, h⟩ |
      ⟨table, build, fault, hvendors, hbuild, htest, h⟩ | ⟨_, _, _, _, _, _, _, h⟩ :=
      ofConfig_cases t env c
    · cases h.symm.trans hfault
      obtain ⟨before, line, after, hlines, hbefore, hline, rfl⟩ :=
        VendorTable.ofPatterns_eq_error.mp hvendors
      exact .vendor hlines hbefore hline
    · cases h.symm.trans hfault
      obtain ⟨source, text, reason, hrestricts, hparse, rfl⟩ :=
        Config.constraint_eq_error.mp hbuild
      exact .build (VendorTable.exists_ofPatterns_eq_ok.mp ⟨table, hvendors⟩) hrestricts hparse
    · cases h.symm.trans hfault
      obtain ⟨source, text, reason, hrestricts, hparse, rfl⟩ := Config.constraint_eq_error.mp htest
      exact .test (VendorTable.exists_ofPatterns_eq_ok.mp ⟨table, hvendors⟩)
        (Config.exists_constraint_eq_ok.mp ⟨build, hbuild⟩) hrestricts hparse
    · cases h.symm.trans hfault
  · rintro (⟨hlines, hbefore, hline⟩ | ⟨hvendors, hrestricts, hparse⟩ |
      ⟨hvendors, hbuild, hrestricts, hparse⟩)
    · have htable := VendorTable.ofPatterns_eq_error.mpr ⟨_, _, _, hlines, hbefore, hline, rfl⟩
      simp only [ofConfig, ProbeConfig.prober, htable]
      rfl
    · obtain ⟨table, htable⟩ := VendorTable.exists_ofPatterns_eq_ok.mpr hvendors
      have hconstraint := Config.constraint_eq_error.mpr ⟨_, _, _, hrestricts, hparse, rfl⟩
      simp only [ofConfig, ProbeConfig.prober, htable, withProber, Config.requirement, hconstraint]
      rfl
    · obtain ⟨table, htable⟩ := VendorTable.exists_ofPatterns_eq_ok.mpr hvendors
      obtain ⟨build, hok⟩ := Config.exists_constraint_eq_ok.mpr hbuild
      have hconstraint := Config.constraint_eq_error.mpr ⟨_, _, _, hrestricts, hparse, rfl⟩
      simp only [ofConfig, ProbeConfig.prober, htable, withProber, Config.requirement, hok,
        hconstraint]
      rfl

/-- Whether and why a service cannot be made depends on the vendor table and the constraints. -/
theorem ofConfig_eq_error_congr (hvendors : c.probe.vendors = c'.probe.vendors)
    (hconstraint : ∀ p, c.constraint p = c'.constraint p) (t t' : FileTree)
    (env env' : Environment) (fault : ConfigFault) :
    ofConfig t env c = .error fault ↔ ofConfig t' env' c' = .error fault := by
  -- the machine is only looked at once all three have been read
  simp only [ofConfig, ProbeConfig.prober, withProber, Config.requirement, hvendors, hconstraint,
    bind, Except.bind, Except.map]
  cases VendorTable.ofPatterns c'.probe.vendors with
  | error vendor => rfl
  | ok table =>
    cases c'.constraint .build with
    | error fault => rfl
    | ok build =>
      cases c'.constraint .test with
      | error fault => rfl
      | ok test => simp [pure, Except.pure]

/-- A service can be made exactly when all vendor patterns and what restricts the versions for each
purpose can be read; otherwise the first fault is reported. A field whose property is set, or a
blank one, is never at fault, and naming a home excuses nothing. The service requests for a purpose
what is said about it, and nothing that is said about the other; neither the machine nor where to
look for homes has any bearing on whether it can be made. -/
theorem ofConfig_outcome (t : FileTree) (env : Environment) (c : Config) :
    ((∃ s, ofConfig t env c = .ok s) ↔
      (∀ line ∈ c.probe.vendors, line.Readable) ∧ ∀ p, c.Readable p) ∧
    (∀ fault, ofConfig t env c = .error fault ↔ c.FirstFault fault) ∧
    (∀ s, ofConfig t env c = .ok s → ∀ p, c.Requests p (s.requirement p)) ∧
    (∀ (p : Purpose) raw field, Sorted.get? p.places.version c.properties = some raw →
      Text.isBlankText raw.toList = false → ∀ fault,
      ofConfig t env (c.withConstraintText field p) = .error fault ↔
        ofConfig t env c = .error fault) ∧
    (∀ p raw, Text.isBlankText raw.toList = true → ∀ fault,
      ofConfig t env (c.withConstraintText (some raw) p) = .error fault ↔
        ofConfig t env (c.withConstraintText none p) = .error fault) ∧
    (∀ (p : Purpose) home fault, ofConfig t env (c.setProperty p.places.home home) = .error fault ↔
      ofConfig t env c = .error fault) ∧
    (∀ p c' s s', Config.SameFor p c c' → ofConfig t env c = .ok s → ofConfig t env c' = .ok s' →
      s.requirement p = s'.requirement p) ∧
    ∀ t' env' roots hints currentHome detectsCurrent fault,
      ofConfig t' env' { c with roots, hints, currentHome, detectsCurrent } = .error fault ↔
        ofConfig t env c = .error fault := by
  refine ⟨?_, fun fault => ofConfig_eq_error, ?_, ?_, ?_, ?_, ?_, ?_⟩
  · rw [exists_ofConfig_eq_ok, VendorTable.exists_ofPatterns_eq_ok]
    exact and_congr_right' (forall_congr' fun p => Config.exists_constraint_eq_ok)
  · intro s hs p
    obtain ⟨-, -, -, -, hrequirement⟩ := ofConfig_eq_ok hs
    exact Config.requests_of_requirement (hrequirement p)
  · intro p raw field hraw hblank fault
    have hvendors : (c.withConstraintText field p).probe.vendors = c.probe.vendors := by
      cases p <;> rfl
    exact ofConfig_eq_error_congr hvendors
      (Config.constraint_withConstraintText hraw hblank field) ..
  · intro p raw hblank fault
    have hvendors : (c.withConstraintText (some raw) p).probe.vendors =
        (c.withConstraintText none p).probe.vendors := by
      cases p <;> rfl
    exact ofConfig_eq_error_congr hvendors (Config.constraint_withConstraintText_blank hblank p) ..
  · intro p home fault
    have hvendors : (c.setProperty p.places.home home).probe.vendors = c.probe.vendors := rfl
    exact ofConfig_eq_error_congr hvendors (Config.constraint_setProperty home p) ..
  · intro p c' s s' hsame hs hs'
    obtain ⟨-, -, -, -, hrequirement⟩ := ofConfig_eq_ok hs
    obtain ⟨-, -, -, -, hrequirement'⟩ := ofConfig_eq_ok hs'
    have hboth := Config.requirement_congr hsame
    rw [hrequirement, hrequirement'] at hboth
    exact Except.ok.inj hboth
  · intro t' env' roots hints currentHome detectsCurrent fault
    refine ofConfig_eq_error_congr ?_ (fun p => ?_) ..
    · rfl
    · exact Config.constraint_congr rfl fun _ => by cases p <;> rfl

end Service

end JavaHomes
