import Mathlib.Data.List.Forall2
import JavaHomes.CommandLine.Options
import JavaHomes.Proofs.Properties

/-!
The configuration that a command line leads to. A property has the value that the last argument for
it gives, and a blank one hides what the base configuration has; properties that no argument names,
and everything else that no option is about, are those of the base.
-/

namespace JavaHomes.CommandLine

variable {t : FileTree} {env : Environment} {o : Options} {base c : Config} {k : String}
  {raw : String} {raws : List String} {e : String × String} {back : List Char}

/-! ### Property arguments -/

/-- The argument names the property `k`: this is what stands in front of its first equality sign,
without white space around it, and `back` is what stands behind the sign. -/
def Assigns (raw k : String) (back : List Char) : Prop :=
  ∃ front, raw.toList = front ++ '=' :: back ∧ '=' ∉ front ∧ String.ofList (Text.trim front) = k

theorem parseProperty_eq_ok (h : parseProperty raw = .ok e) :
    ∃ back, Assigns raw e.1 back ∧ e.2 = String.ofList (Text.trim back) := by
  rw [parseProperty] at h
  split at h
  · cases h
  · rename_i front back hsplit
    split at h
    · cases h
    · obtain ⟨hraw, hfront⟩ := Text.splitOnce_singleton.mp hsplit
      rw [← Except.ok.inj h]
      exact ⟨back, ⟨front, hraw, hfront, rfl⟩, rfl⟩

theorem Assigns.unique {k' : String} {back' : List Char} (h : Assigns raw k back)
    (h' : Assigns raw k' back') : k = k' ∧ back = back' := by
  obtain ⟨front, hraw, hfront, rfl⟩ := h
  obtain ⟨front', hraw', hfront', rfl⟩ := h'
  have hsplit := Text.splitOnce_singleton.mpr ⟨hraw, hfront⟩
  rw [Text.splitOnce_singleton.mpr ⟨hraw', hfront'⟩, Option.some.injEq, Prod.mk.injEq] at hsplit
  exact ⟨by rw [hsplit.1], hsplit.2.symm⟩

/-- The arguments are read as the properties. -/
abbrev Reads (raws : List String) (properties : List (String × String)) : Prop :=
  List.Forall₂ (fun raw e => parseProperty raw = .ok e) raws properties

variable {properties : List (String × String)}

theorem Reads.forall_ne (h : Reads raws properties)
    (hno : ∀ raw ∈ raws, ∀ back, ¬ Assigns raw k back) : ∀ e ∈ properties, e.1 ≠ k := by
  induction h with
  | nil => exact fun _ he => absurd he List.not_mem_nil
  | cons hparse _ ih =>
    obtain ⟨hfirst, hrest⟩ := List.forall_mem_cons.mp hno
    refine List.forall_mem_cons.mpr ⟨?_, ih hrest⟩
    obtain ⟨back, hassigns, -⟩ := parseProperty_eq_ok hparse
    rintro rfl
    exact hfirst back hassigns

theorem Reads.exists_append {before after : List String}
    (h : Reads (before ++ raw :: after) properties) :
    ∃ front e rest, properties = front ++ e :: rest ∧ parseProperty raw = .ok e ∧
      Reads after rest := by
  induction before generalizing properties with
  | nil =>
    obtain ⟨e, rest, hparse, hrest, rfl⟩ := List.forall₂_cons_left_iff.mp h
    exact ⟨[], e, rest, rfl, hparse, hrest⟩
  | cons first before ih =>
    obtain ⟨d, tail, -, htail, rfl⟩ := List.forall₂_cons_left_iff.mp h
    obtain ⟨front, e, rest, rfl, hparse, hrest⟩ := ih htail
    exact ⟨d :: front, e, rest, rfl, hparse, hrest⟩

/-! ### Layers -/

theorem foldl_setProperty (properties : List (String × String)) (c : Config) :
    properties.foldl (fun c (key, value) => c.setProperty key value) c =
      { c with properties := Sorted.putAll properties c.properties } := by
  induction properties generalizing c with
  | nil => rfl
  | cons e properties ih => exact ih _

/-- A configuration in which `properties` were set one after the other has the value of the last
argument for a property, unless that is blank. -/
theorem property?_of_last (hc : c.properties = Sorted.putAll properties base.properties)
    {before after : List String} (h : Reads (before ++ raw :: after) properties)
    (hassigns : Assigns raw k back) (hlast : ∀ r ∈ after, ∀ b, ¬ Assigns r k b) :
    c.property? k =
      if Text.isBlankText back then none else some (String.ofList (Text.trim back)) := by
  obtain ⟨front, e, rest, rfl, hparse, hrest⟩ := h.exists_append
  obtain ⟨back', hassigns', hvalue⟩ := parseProperty_eq_ok hparse
  obtain ⟨rfl, rfl⟩ := hassigns.unique hassigns'
  have hget := Sorted.get?_putAll_of_last (v := e.2) front base.properties (hrest.forall_ne hlast)
  rw [Config.property?, hc, hget, hvalue, Option.bind_some, Config.notBlank?_trim]

theorem property?_of_forall_not (hc : c.properties = Sorted.putAll properties base.properties)
    (h : Reads raws properties) (hno : ∀ raw ∈ raws, ∀ back, ¬ Assigns raw k back) :
    c.property? k = base.property? k := by
  rw [Config.property?, hc, Sorted.get?_putAll_of_forall_ne _ (h.forall_ne hno), Config.property?]

theorem validate_eq_ok :
    c.validate = .ok () ↔ 1 ≤ c.probe.parallel ∧ 1 ≤ c.probe.timeoutMillis := by
  rw [Config.validate]
  split
  · simp only [reduceCtorEq, false_iff]
    omega
  · split
    · simp only [reduceCtorEq, false_iff]
      omega
    · simp only [true_iff]
      omega

namespace Options

/-- Putting options on a configuration sets what they are about and keeps the rest. -/
theorem layer_eq (o : Options) (base : Config) :
    o.layer base =
      { base with
        roots := base.roots ++ o.searchRoots
        properties := Sorted.putAll o.properties base.properties
        currentHome := o.currentHome.or base.currentHome
        detectsCurrent := base.detectsCurrent && !o.noDefaults
        probe := { base.probe with timeoutMillis := o.timeout.getD base.probe.timeoutMillis } } :=
  foldl_setProperty ..

theorem configure_eq_ok (hbase : Config.obtain t env o.config (!o.noDefaults) = .ok base) :
    o.configure t env = .ok c ↔
      (1 ≤ base.probe.parallel ∧ 1 ≤ o.timeout.getD base.probe.timeoutMillis) ∧
        o.layer base = c := by
  have hvalidate := validate_eq_ok (c := o.layer base)
  rw [layer_eq] at hvalidate
  rw [configure, hbase, ← hvalidate, ← layer_eq]
  cases h : (o.layer base).validate with
  | error fault => simp [bind, Except.bind, h]
  | ok => simp [bind, Except.bind, h, pure, Except.pure]

/-- The options lead to a configuration exactly when it leaves room for a probe and gives it time.
The value of a property is the text behind the first equality sign of the last argument that names
it, and none if that is blank; without such an argument it is the value in the base configuration.
Search roots come behind those of the base, and what else the options are about replaces it; all the
rest is the base. -/
theorem configure_layers (hbase : Config.obtain t env o.config (!o.noDefaults) = .ok base)
    (hraws : Reads raws o.properties) :
    ((∃ c, o.configure t env = .ok c) ↔
      1 ≤ base.probe.parallel ∧ 1 ≤ o.timeout.getD base.probe.timeoutMillis) ∧
    ∀ c, o.configure t env = .ok c →
      (∀ k before raw after back, raws = before ++ raw :: after → Assigns raw k back →
        (∀ r ∈ after, ∀ b, ¬ Assigns r k b) →
        c.property? k =
          if Text.isBlankText back then none else some (String.ofList (Text.trim back))) ∧
      (∀ k, (∀ raw ∈ raws, ∀ back, ¬ Assigns raw k back) → c.property? k = base.property? k) ∧
      c = { base with
        roots := base.roots ++ o.searchRoots
        properties := c.properties
        currentHome := o.currentHome.or base.currentHome
        detectsCurrent := base.detectsCurrent && !o.noDefaults
        probe := { base.probe with
          timeoutMillis := o.timeout.getD base.probe.timeoutMillis } } := by
  constructor
  · simp only [configure_eq_ok hbase, exists_and_left, exists_eq', and_true]
  · intro c hc
    obtain ⟨-, rfl⟩ := (configure_eq_ok hbase).mp hc
    have hproperties : (o.layer base).properties = Sorted.putAll o.properties base.properties := by
      rw [layer_eq]
    refine ⟨?_, ?_, ?_⟩
    · rintro k before raw after back rfl hassigns hlast
      exact property?_of_last hproperties hraws hassigns hlast
    · intro k hno
      exact property?_of_forall_not hproperties hraws hno
    · rw [hproperties, layer_eq]

/-- Nothing but the root. -/
def bareTree : FileTree where
  entries := []
  workingDirectory := ⟨"/"⟩

/-- One more root, and a property that is set and taken back. -/
def retracting : Options where
  searchRoots := [⟨"/opt/java"⟩]
  properties := [("buildJavaHome", "/a=b"), ("k", "1"), ("buildJavaHome", "")]
  timeout := some 5
  noDefaults := true

theorem configure_layers_retracting :
    ∃ c, retracting.configure bareTree {} = .ok c ∧ c.property? "buildJavaHome" = none ∧
      c.property? "k" = some "1" ∧ c.property? "x" = none ∧ c.roots = [⟨"/opt/java"⟩] ∧
      c.probe.timeoutMillis = 5 ∧ c.detectsCurrent = false := by
  have hbase : Config.obtain bareTree {} retracting.config (!retracting.noDefaults) = .ok {} := rfl
  have hraws : Reads ["buildJavaHome=/a=b", " k = 1", "buildJavaHome= "] retracting.properties :=
    .cons (by decide) (.cons (by decide) (.cons (by decide) .nil))
  have hset : Assigns "buildJavaHome=/a=b" "buildJavaHome" "/a=b".toList :=
    ⟨"buildJavaHome".toList, by decide, by decide, by decide⟩
  have hk : Assigns " k = 1" "k" " 1".toList := ⟨" k ".toList, by decide, by decide, by decide⟩
  have hback : Assigns "buildJavaHome= " "buildJavaHome" " ".toList :=
    ⟨"buildJavaHome".toList, by decide, by decide, by decide⟩
  obtain ⟨hexists, hall⟩ := configure_layers hbase hraws
  obtain ⟨c, hc⟩ := hexists.mpr (by decide)
  obtain ⟨hlast, hnone, hrest⟩ := hall c hc
  have hhidden := hlast _ ["buildJavaHome=/a=b", " k = 1"] _ [] _ rfl hback (by simp)
  have hvalue := hlast _ ["buildJavaHome=/a=b"] _ ["buildJavaHome= "] _ rfl hk
    (List.forall_mem_singleton.mpr fun b h => absurd (h.unique hback).1 (by decide))
  have hother : c.property? "x" = none := by
    refine hnone "x" ?_
    refine List.forall_mem_cons.mpr ⟨fun b h => absurd (h.unique hset).1 (by decide), ?_⟩
    refine List.forall_mem_cons.mpr ⟨fun b h => absurd (h.unique hk).1 (by decide), ?_⟩
    exact List.forall_mem_singleton.mpr fun b h => absurd (h.unique hback).1 (by decide)
  exact ⟨c, hc, hhidden.trans (by decide), hvalue.trans (by decide), hother,
    by rw [hrest]; rfl, by rw [hrest]; rfl, by rw [hrest]; rfl⟩

end Options

end JavaHomes.CommandLine
