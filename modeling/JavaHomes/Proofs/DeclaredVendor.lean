import JavaHomes.Proofs.PropertyDump

/-!
Where the vendor comes from. The last line that declares a vendor decides, and the banner if there
is no such line. A line whose value is blank declares nothing: it neither takes the place of another
declaration nor hides the banner. So a report never has a blank vendor unless the table has one.
-/

namespace JavaHomes

theorem VendorTable.mem_of_identify? {table : VendorTable} {evidence vendor : String}
    (h : table.identify? evidence = some vendor) : ∃ e ∈ table.entries, e.1 = vendor := by
  obtain ⟨e, hfind, hvendor⟩ := Option.map_eq_some_iff.mp h
  exact ⟨e, List.mem_of_find?_eq_some hfind, hvendor⟩

namespace Launcher

open Text (Trimmed isBlank isBlankText)

variable {key value : String} {output : List Char} {table : VendorTable}

/-- A line declares this value for a key, and no later line declares any. -/
def DeclaredLast (key value : String) (ls : List (List Char)) : Prop :=
  ∃ before line after, ls = before ++ line :: after ∧ Declares key value line ∧
    ∀ l ∈ after, ∀ v, ¬ Declares key v l

/-- The property that counts is that of the last line with a declaration. -/
theorem statedLast_properties_iff (hkey : IsWord key) :
    StatedLast (properties output) key value ↔ DeclaredLast key value (Text.lines output) := by
  constructor
  · rintro ⟨before, after, heq, hafter⟩
    obtain ⟨front, back, hlines, -, hback⟩ := List.filterMap_eq_append_iff.mp heq
    obtain ⟨skipped, line, rest, rfl, -, hline, rfl⟩ := List.filterMap_eq_cons_iff.mp hback
    refine ⟨front ++ skipped, line, rest, by rw [hlines, List.append_assoc],
      declares_of_property? hline, fun l hl v hdeclares => ?_⟩
    exact hafter (key, v) (List.mem_filterMap.mpr ⟨l, hl, hdeclares.property?_eq hkey⟩) rfl
  · rintro ⟨before, line, after, hlines, hline, hafter⟩
    refine ⟨before.filterMap property?, after.filterMap property?, ?_, fun e he hkey' => ?_⟩
    · rw [properties, hlines, List.filterMap_append,
        List.filterMap_cons_some (hline.property?_eq hkey)]
    · obtain ⟨l, hl, hproperty⟩ := List.mem_filterMap.mp he
      exact hafter l hl e.2 (declares_of_property? (hkey' ▸ hproperty))

/-- Without a declaration there is no property. -/
theorem lastValue?_eq_none (hkey : IsWord key)
    (h : ∀ line ∈ Text.lines output, ∀ value, ¬ Declares key value line) :
    lastValue? (properties output) key = none := by
  cases hvalue : lastValue? (properties output) key with
  | none => rfl
  | some value =>
    obtain ⟨before, line, after, hlines, hline, -⟩ :=
      (statedLast_properties_iff hkey).mp (lastValue?_eq_some_iff.mp hvalue)
    exact absurd hline (h line (by simp [hlines]) value)

/-- Whether there is a report depends on the version as well, its vendor does not. -/
theorem map_vendor_ofOutput? (table : VendorTable) (output : List Char) :
    (Report.ofOutput? table output).map Report.vendor =
      (version? output (properties output)).bind fun _ =>
        vendor? table output (properties output) := by
  rw [Report.ofOutput?]
  cases version? output (properties output) with
  | none => rfl
  | some version => cases vendor? table output (properties output) <;> rfl

/-- The vendor is a declared one or one of the table's, and neither is blank. -/
theorem isBlankText_vendor? {vendor : String}
    (hnames : ∀ e ∈ table.entries, isBlankText e.1.toList = false)
    (h : vendor? table output (properties output) = some vendor) :
    isBlankText vendor.toList = false := by
  have hlisted {evidence : String} (hvendor : table.identify? evidence = some vendor) :
      isBlankText vendor.toList = false := by
    obtain ⟨e, he, rfl⟩ := VendorTable.mem_of_identify? hvendor
    exact hnames e he
  rw [vendor?] at h
  split at h
  · rename_i declared hdeclared
    cases hvendor : table.identify? declared with
    | some name =>
      rw [hvendor] at h
      exact hlisted (hvendor.trans h)
    | none =>
      obtain ⟨before, after, hstated, -⟩ := lastValue?_eq_some_iff.mp hdeclared
      have hmem : ("java.vendor", declared) ∈ properties output := by simp [hstated]
      rw [hvendor] at h
      obtain rfl : declared = vendor := Option.some.inj h
      exact (trimmed_of_mem_properties hmem).2.1.isBlankText_eq_false
  · exact hlisted h

theorem isWord_vendor : IsWord "java.vendor" := by
  have hword : "java.vendor".toList.all (!isBlank ·) = true := by decide
  exact ⟨by decide, fun c hc => (Bool.not_eq_true' _).mp (List.all_eq_true.mp hword c hc)⟩

/-- No key and no value is empty, blank at an end or longer than a line, so no report has a blank
vendor unless the table has one. A line in which the vendor is blank declares none: the last line
with another value decides, wherever it stands, and the banner if there is none. -/
theorem vendor_of_output (table : VendorTable) (output : List Char) :
    (∀ e ∈ properties output, (Trimmed e.1.toList ∧ '\n' ∉ e.1.toList) ∧
      Trimmed e.2.toList ∧ '\n' ∉ e.2.toList) ∧
    ((∀ e ∈ table.entries, isBlankText e.1.toList = false) →
      ∀ report, Report.ofOutput? table output = some report →
        isBlankText report.vendor.toList = false) ∧
    (∀ rest line, IsEntry "java.vendor" rest line → (∀ c ∈ rest, isBlank c = true) →
      property? line = none ∧ ∀ value, ¬ Declares "java.vendor" value line) ∧
    (∀ value, DeclaredLast "java.vendor" value (Text.lines output) →
      (Report.ofOutput? table output).map Report.vendor =
        (version? output (properties output)).map fun _ => (table.identify? value).getD value) ∧
    ((∀ line ∈ Text.lines output, ∀ value, ¬ Declares "java.vendor" value line) →
      (Report.ofOutput? table output).map Report.vendor =
        (version? output (properties output)).bind fun _ =>
          table.identify? (String.ofList (banner output))) := by
  refine ⟨fun e he => trimmed_of_mem_properties he, fun hnames report hreport => ?_,
    fun rest line hentry hrest => ?_, fun value hlast => ?_, fun hnone => ?_⟩
  · have hvendor := map_vendor_ofOutput? table output
    rw [hreport] at hvendor
    obtain ⟨-, -, hvendor⟩ := Option.bind_eq_some_iff.mp hvendor.symm
    exact isBlankText_vendor? hnames hvendor
  · have hproperty := property?_of_blank isWord_vendor hentry hrest
    refine ⟨hproperty, fun value hdeclares => ?_⟩
    cases hproperty.symm.trans ((property?_eq_some_iff isWord_vendor).mpr hdeclares)
  · have hvalue := lastValue?_eq_some_iff.mpr ((statedLast_properties_iff isWord_vendor).mpr hlast)
    rw [map_vendor_ofOutput?, vendor?, hvalue]
    cases version? output (properties output) <;> rfl
  · rw [map_vendor_ofOutput?, vendor?, lastValue?_eq_none isWord_vendor hnone]

/-- A dump in which a vendor, with a sign in it, is followed by two blank ones. -/
def restated : List Char :=
  "openjdk version \"21\"\n    java.vendor = Acme = Sons \r\n".toList ++
    "\tjava.vendor  = \u00a0\r\n    java.version = 17.0.2\n    java.vendor =".toList

/-- A table whose only pattern occurs in the empty text and in no other. -/
def emptyTextTable : VendorTable :=
  ⟨[("Nobody", ⟨#[], .seq (.look .textStart) (.look .textEnd)⟩)]⟩

theorem vendor_of_restated :
    (∀ e ∈ emptyTextTable.entries, isBlankText e.1.toList = false) ∧
      IsEntry "java.vendor" ['\u00a0'] "\tjava.vendor  = \u00a0".toList ∧
      property? "\tjava.vendor  = \u00a0".toList = none ∧
      DeclaredLast "java.vendor" "Acme = Sons" (Text.lines restated) ∧
      ∃ report, Report.ofOutput? emptyTextTable restated = some report ∧
        report.vendor = "Acme = Sons" ∧ isBlankText report.vendor.toList = false := by
  have hnames : ∀ e ∈ emptyTextTable.entries, isBlankText e.1.toList = false := by decide
  have hentry : IsEntry "java.vendor" ['\u00a0'] "\tjava.vendor  = \u00a0".toList :=
    ⟨['\t'], [' '], List.forall_mem_singleton.mpr rfl, List.forall_mem_singleton.mpr rfl, rfl⟩
  have hdeclared : DeclaredLast "java.vendor" "Acme = Sons" (Text.lines restated) :=
    (statedLast_properties_iff isWord_vendor).mp (lastValue?_eq_some_iff.mp (by decide +kernel))
  have hversion : version? restated (properties restated) = some ⟨17, 0, 2⟩ := by decide +kernel
  have hunknown : emptyTextTable.identify? "Acme = Sons" = none := by decide +kernel
  obtain ⟨-, hshows, hblank, hlast, -⟩ := vendor_of_output emptyTextTable restated
  have hvendor := hlast "Acme = Sons" hdeclared
  rw [hversion, Option.map_some, hunknown, Option.getD_none] at hvendor
  obtain ⟨report, hreport, hname⟩ := Option.map_eq_some_iff.mp hvendor
  obtain ⟨hnothing, -⟩ := hblank _ _ hentry (List.forall_mem_singleton.mpr rfl)
  exact ⟨hnames, hentry, hnothing, hdeclared, report, hreport, hname, hshows hnames report hreport⟩

end Launcher

end JavaHomes
