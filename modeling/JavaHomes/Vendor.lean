import JavaHomes.Pattern

/-!
The vendor table: patterns over what a launcher says about itself, each with the vendor that it
stands for. The first pattern that occurs decides, so special distributions come before general
ones.
-/

namespace JavaHomes

/-- One line of a vendor table, as it is configured. -/
structure VendorPattern where
  vendor : String
  pattern : String
  deriving DecidableEq, Repr

namespace VendorPattern

/-- The table that is used unless another one is configured. -/
def builtin : List VendorPattern :=
  [⟨"Eclipse Adoptium", "(?i)temurin|adoptium"⟩,
    ⟨"AdoptOpenJDK", "(?i)adoptopenjdk"⟩,
    ⟨"Azul Zulu", "(?i)zulu|azul"⟩,
    ⟨"Amazon Corretto", "(?i)corretto|amazon"⟩,
    ⟨"GraalVM", "(?i)graalvm"⟩,
    ⟨"Microsoft", "(?i)microsoft"⟩,
    ⟨"BellSoft Liberica", "(?i)liberica|bellsoft"⟩,
    ⟨"SAP SapMachine", "(?i)sapmachine"⟩,
    ⟨"IBM", "(?i)\\bibm\\b|openj9|semeru"⟩,
    ⟨"Oracle", "Java\\(TM\\)|Oracle Corporation"⟩,
    ⟨"OpenJDK", "(?i)openjdk"⟩]

end VendorPattern

/-- A vendor table that is ready for searching. -/
structure VendorTable where
  entries : List (String × Pattern)

namespace VendorTable

/-- Makes one line ready. The fault is the vendor whose pattern is not well formed. -/
def entry (line : VendorPattern) : Except String (String × Pattern) :=
  match Pattern.ofString? line.pattern with
  | some p => .ok (line.vendor, p)
  | none => .error line.vendor

/-- Makes a table ready; of several unusable lines the first one is the fault. -/
def ofPatterns (lines : List VendorPattern) : Except String VendorTable :=
  (lines.mapM entry).map VendorTable.mk

/-- The vendor of the first pattern that occurs in a text. -/
def identify? (table : VendorTable) (evidence : String) : Option String :=
  (table.entries.find? fun e => e.2.occursIn evidence).map Prod.fst

end VendorTable

end JavaHomes
