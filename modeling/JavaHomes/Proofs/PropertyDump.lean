import JavaHomes.Proofs.Lists
import JavaHomes.Proofs.PropertyLine

/-!
Property dumps. A launcher writes each property on an indented line of its own and whatever else it
says on lines that are not indented. Reading such an output gives the properties back as they were
written, so version and vendor are those that were stated last, whatever other lines there are and
in whatever order they come.
-/

namespace JavaHomes.Launcher

open Text (Lined)

variable {key value : String} {stated : List (String × String)} {output : List Char}

/-! ### Lines of a dump -/

/-- A property as a launcher may state it: the key is one word, and there is a value without white
space around it. -/
structure IsProperty (key value : String) : Prop where
  key_ne : key.toList ≠ []
  key_word : ∀ c ∈ key.toList, Text.isBlank c = false
  value_ne : value.toList ≠ []
  value_first : ∀ c ∈ value.toList.head?, Text.isBlank c = false
  value_last : ∀ c ∈ value.toList.getLast?, Text.isBlank c = false

theorem isProperty_iff : IsProperty key value ↔
    key.toList ≠ [] ∧ key.toList.all (!Text.isBlank ·) = true ∧ value.toList ≠ [] ∧
      value.toList.head?.all (!Text.isBlank ·) = true ∧
      value.toList.getLast?.all (!Text.isBlank ·) = true := by
  simp only [List.all_eq_true, Option.all_eq_true, Bool.not_eq_true']
  constructor
  · rintro ⟨hkey, hword, hvalue, hfirst, hlast⟩
    exact ⟨hkey, hword, hvalue, hfirst, hlast⟩
  · rintro ⟨hkey, hword, hvalue, hfirst, hlast⟩
    exact ⟨hkey, hword, hvalue, hfirst, hlast⟩

instance (key value : String) : Decidable (IsProperty key value) :=
  decidable_of_iff' _ isProperty_iff

/-- A line of an output. -/
inductive DumpLine where
  | property (key value : String)
  | other (text : List Char)

namespace DumpLine

/-- The line as it is written. -/
def chars : DumpLine → List Char
  | property key value => "    ".toList ++ (key.toList ++ (" = ".toList ++ value.toList))
  | other text => text

/-- A line that states a property, or one that is not indented. -/
def Proper : DumpLine → Prop
  | property key value => IsProperty key value
  | other text => ∀ c ∈ text.head?, Text.isBlank c = false

instance : DecidablePred Proper
  | property key value => inferInstanceAs (Decidable (IsProperty key value))
  | other text =>
    decidable_of_iff (text.head?.all (!Text.isBlank ·) = true)
      (by simp [Proper, Option.all_eq_true])

/-- The property that a line states. -/
def property? : DumpLine → Option (String × String)
  | property key value => some (key, value)
  | other _ => none

end DumpLine

variable {ls : List DumpLine}

/-- A key and its value are found where they were written. -/
theorem property?_written (h : IsProperty key value) :
    property? (DumpLine.property key value).chars = some (key, value) := by
  have hindent : ∀ c ∈ "    ".toList, Text.isBlank c = true := List.all_eq_true.mp (by decide)
  have hentry : IsEntry key value.toList (DumpLine.property key value).chars :=
    ⟨"    ".toList, [], hindent, by simp, rfl⟩
  have hdeclares : Declares key value (DumpLine.property key value).chars :=
    ⟨rfl, ⟨h.value_ne, h.value_first, h.value_last⟩, value.toList, hentry, Text.around_self _ _⟩
  exact hdeclares.property?_eq ⟨h.key_ne, h.key_word⟩

theorem property?_chars {l : DumpLine} (h : l.Proper) : property? l.chars = l.property? := by
  cases l with
  | property key value => exact property?_written h
  | other text =>
    have hplain : isIndented text = false := by
      cases text with
      | nil => rfl
      | cons c text => exact h c rfl
    rw [DumpLine.chars, property?, hplain]
    rfl

/-- An output that consists of some lines. -/
structure IsDump (ls : List DumpLine) (output : List Char) : Prop where
  lined : Lined (ls.map DumpLine.chars) output
  proper : ∀ l ∈ ls, l.Proper

/-- The properties that some lines state, in their order. -/
def statements (ls : List DumpLine) : List (String × String) :=
  ls.filterMap DumpLine.property?

/-- The properties of an output are those that its lines state. -/
theorem IsDump.properties_eq (h : IsDump ls output) : properties output = statements ls := by
  rw [properties, h.lined.lines_eq, List.filterMap_map]
  exact List.filterMap_congr fun l hl => property?_chars (h.proper l hl)

/-! ### What is stated last -/

/-- The last statement about a key gives it this value. -/
def StatedLast (stated : List (String × String)) (key value : String) : Prop :=
  ∃ before after, stated = before ++ (key, value) :: after ∧ ∀ e ∈ after, e.1 ≠ key

theorem lastValue?_eq_some_iff :
    lastValue? stated key = some value ↔ StatedLast stated key value := by
  rw [lastValue?, Option.map_eq_some_iff]
  constructor
  · rintro ⟨⟨key', value'⟩, hfind, rfl⟩
    obtain ⟨hkey, before, after, rfl, hafter⟩ := Lists.find?_reverse_eq_some_iff.mp hfind
    obtain rfl : key' = key := beq_iff_eq.mp hkey
    exact ⟨before, after, rfl, fun e he => beq_eq_false_iff_ne.mp (hafter e he)⟩
  · rintro ⟨before, after, rfl, hafter⟩
    refine ⟨(key, value), Lists.find?_reverse_eq_some_iff.mpr
      ⟨beq_self_eq_true key, before, after, rfl, fun e he => ?_⟩, rfl⟩
    exact beq_eq_false_iff_ne.mpr (hafter e he)

/-- The bitness is that of the data model, if this is one of the two. -/
theorem wordSize_of_model64 (h : StatedLast stated "sun.arch.data.model" "64") :
    wordSize output stated = .bits64 := by
  rw [wordSize, lastValue?_eq_some_iff.mpr h]
  rfl

theorem wordSize_of_model32 (h : StatedLast stated "sun.arch.data.model" "32") :
    wordSize output stated = .bits32 := by
  rw [wordSize, lastValue?_eq_some_iff.mpr h]
  rfl

/-- Without a data model the output and the architecture decide. -/
theorem wordSize_eq_bits64_iff (h64 : ¬ StatedLast stated "sun.arch.data.model" "64")
    (h32 : ¬ StatedLast stated "sun.arch.data.model" "32") :
    wordSize output stated = .bits64 ↔ "64-Bit".toList <:+: output ∨
      ∃ arch, StatedLast stated "os.arch" arch ∧ "64".toList <:+: arch.toList := by
  have harch : ((lastValue? stated "os.arch").any fun a => Text.contains "64".toList a.toList) =
      true ↔ ∃ arch, StatedLast stated "os.arch" arch ∧ "64".toList <:+: arch.toList := by
    simp only [Option.any_eq_true, Text.contains_iff (by decide : "64".toList ≠ []),
      lastValue?_eq_some_iff]
  rw [← lastValue?_eq_some_iff] at h64 h32
  rw [wordSize, ← harch, ← Text.contains_iff (by decide : "64-Bit".toList ≠ [])]
  split
  · exact absurd ‹_› h64
  · exact absurd ‹_› h32
  · split
    · rename_i hmark
      exact iff_of_true rfl (.inl hmark)
    · rename_i hmark
      split
      · rename_i harch
        exact iff_of_true rfl (.inr harch)
      · rename_i harch
        exact iff_of_false (by decide) (not_or.mpr ⟨hmark, harch⟩)

/-! ### The report -/

theorem IsDump.ofOutput?_eq {text declared : String} {v : Version} (h : IsDump ls output)
    (hversion : StatedLast (statements ls) "java.version" text)
    (hread : Version.parse? text = some v)
    (hvendor : StatedLast (statements ls) "java.vendor" declared) (table : VendorTable) :
    Report.ofOutput? table output =
      some ⟨(table.identify? declared).getD declared, v, wordSize output (statements ls)⟩ := by
  have hv : version? output (statements ls) = some v := by
    rw [version?, lastValue?_eq_some_iff.mpr hversion, Option.bind_some, hread]
  have hd : vendor? table output (statements ls) =
      some ((table.identify? declared).getD declared) := by
    rw [vendor?, lastValue?_eq_some_iff.mpr hvendor]
  simp only [Report.ofOutput?, h.properties_eq, hv, hd]

/-- An output of property lines and of lines that are not indented is read as it was written: the
version and the vendor are those that were stated last, the vendor in the table's word for it if
there is one; the bitness is the data model that was stated last, and without one it is 64 if the
output or the architecture mentions it. No other line has a say in version and vendor, nor has the
order of the lines. -/
theorem report_of_dump (table : VendorTable) {text declared : String} {v : Version}
    (h : IsDump ls output) (hversion : StatedLast (statements ls) "java.version" text)
    (hread : Version.parse? text = some v)
    (hvendor : StatedLast (statements ls) "java.vendor" declared) :
    ∃ report, Report.ofOutput? table output = some report ∧ report.version = v ∧
      report.vendor = (table.identify? declared).getD declared ∧
      (StatedLast (statements ls) "sun.arch.data.model" "64" → report.bitness = .bits64) ∧
      (StatedLast (statements ls) "sun.arch.data.model" "32" → report.bitness = .bits32) ∧
      (¬ StatedLast (statements ls) "sun.arch.data.model" "64" →
        ¬ StatedLast (statements ls) "sun.arch.data.model" "32" →
        (report.bitness = .bits64 ↔ "64-Bit".toList <:+: output ∨
          ∃ arch, StatedLast (statements ls) "os.arch" arch ∧ "64".toList <:+: arch.toList)) ∧
      ∀ ls' output', IsDump ls' output' → StatedLast (statements ls') "java.version" text →
        StatedLast (statements ls') "java.vendor" declared →
        ∃ report', Report.ofOutput? table output' = some report' ∧
          report'.version = report.version ∧ report'.vendor = report.vendor := by
  refine ⟨_, h.ofOutput?_eq hversion hread hvendor table, rfl, rfl, wordSize_of_model64,
    wordSize_of_model32, wordSize_eq_bits64_iff, fun ls' output' h' hversion' hvendor' => ?_⟩
  exact ⟨_, h'.ofOutput?_eq hversion' hread hvendor' table, rfl, rfl⟩

/-- A dump in which the vendor is stated twice, with a banner that claims another version. -/
def secondThoughts : List DumpLine :=
  [.other "Property settings:".toList, .property "java.vendor" "Acme",
    .property "java.specification.vendor" "Oracle", .property "java.version" "17.0.2",
    .property "java.vendor" "Acme = Sons", .property "os.arch" "aarch64", .other [],
    .other "openjdk version \"21\"".toList]

/-- The same dump as one text, whose line endings differ and whose last line has none. -/
def secondThoughtsText : List Char :=
  "Property settings:\n    java.vendor = Acme\r\n".toList ++
    "    java.specification.vendor = Oracle\n    java.version = 17.0.2\n".toList ++
    "    java.vendor = Acme = Sons\n    os.arch = aarch64\r\n".toList ++
    "\nopenjdk version \"21\"".toList

theorem report_of_secondThoughts :
    IsDump secondThoughts secondThoughtsText ∧
      StatedLast (statements secondThoughts) "java.version" "17.0.2" ∧
      Version.parse? "17.0.2" = some ⟨17, 0, 2⟩ ∧
      StatedLast (statements secondThoughts) "java.vendor" "Acme = Sons" ∧
      Report.ofOutput? ⟨[]⟩ secondThoughtsText = some ⟨"Acme = Sons", ⟨17, 0, 2⟩, .bits64⟩ := by
  have hdump : IsDump secondThoughts secondThoughtsText :=
    ⟨Text.lined_iff.mpr (by decide +kernel), by decide +kernel⟩
  have hversion : StatedLast (statements secondThoughts) "java.version" "17.0.2" :=
    lastValue?_eq_some_iff.mp (by decide)
  have hread : Version.parse? "17.0.2" = some ⟨17, 0, 2⟩ := by decide
  have hvendor : StatedLast (statements secondThoughts) "java.vendor" "Acme = Sons" :=
    lastValue?_eq_some_iff.mp (by decide)
  have harch : StatedLast (statements secondThoughts) "os.arch" "aarch64" :=
    lastValue?_eq_some_iff.mp (by decide)
  have hmodel : lastValue? (statements secondThoughts) "sun.arch.data.model" = none := by decide
  obtain ⟨⟨vendor, version, bitness⟩, hreport, hv, hd, -, -, hbitness, -⟩ :=
    report_of_dump ⟨[]⟩ hdump hversion hread hvendor
  have hsixtyFour : bitness = .bits64 := by
    refine (hbitness (fun h => ?_) fun h => ?_).mpr (.inr ⟨"aarch64", harch, ?_⟩)
    · rw [← lastValue?_eq_some_iff, hmodel] at h
      cases h
    · rw [← lastValue?_eq_some_iff, hmodel] at h
      cases h
    · exact ⟨"aarch".toList, [], by decide⟩
  obtain rfl : vendor = "Acme = Sons" := hd
  obtain rfl : version = ⟨17, 0, 2⟩ := hv
  exact ⟨hdump, hversion, hread, hvendor, hsixtyFour ▸ hreport⟩

end JavaHomes.Launcher
