import JavaHomes.Config.Basic
import JavaHomes.Proofs.SortedMap
import JavaHomes.Proofs.Text

/-!
What the properties of a configuration say. Blank texts count as absent, all others are read without
the white space around them, and setting a property has no bearing on the others.
-/

namespace JavaHomes.Config

variable {c : Config} {p : Purpose} {name text : String} {path : Path}

theorem notBlank?_eq_some {s : String} : notBlank? s = some text ↔
    Text.isBlankText s.toList = false ∧ Text.trimString s = text := by
  rw [notBlank?]
  cases Text.isBlankText s.toList <;> simp

theorem notBlank?_eq_none {s : String} :
    notBlank? s = none ↔ Text.isBlankText s.toList = true := by
  rw [notBlank?]
  cases Text.isBlankText s.toList <;> simp

/-- A text that has been trimmed is read as the text itself. -/
theorem notBlank?_trim (s : List Char) : notBlank? (String.ofList (Text.trim s)) =
    if Text.isBlankText s then none else some (String.ofList (Text.trim s)) := by
  rw [notBlank?, Text.trimString, String.toList_ofList, Text.isBlankText_trim, Text.trim, Text.trim,
    Text.trimBy_trimBy]

theorem property?_eq_some : c.property? name = some text ↔
    ∃ raw, Sorted.get? name c.properties = some raw ∧ Text.isBlankText raw.toList = false ∧
      Text.trimString raw = text := by
  simp only [property?, Option.bind_eq_some_iff, notBlank?_eq_some]

theorem property?_eq_none : c.property? name = none ↔
    ∀ raw, Sorted.get? name c.properties = some raw → Text.isBlankText raw.toList = true := by
  simp only [property?, Option.bind_eq_none_iff, notBlank?_eq_none]

theorem property?_setProperty (c : Config) (key value name : String) :
    (c.setProperty key value).property? name =
      if key = name then notBlank? value else c.property? name := by
  rw [property?, setProperty, Sorted.get?_insertKey, apply_ite (Option.bind · notBlank?),
    Option.bind_some, property?]

theorem override?_eq_some : c.override? p = some path ↔
    ∃ raw, Sorted.get? p.homeProperty c.properties = some raw ∧
      Text.isBlankText raw.toList = false ∧ path = ⟨Text.trimString raw⟩ := by
  rw [override?, Option.map_eq_some_iff]
  constructor
  · rintro ⟨text, htext, rfl⟩
    obtain ⟨raw, hraw, hblank, rfl⟩ := property?_eq_some.mp htext
    exact ⟨raw, hraw, hblank, rfl⟩
  · rintro ⟨raw, hraw, hblank, rfl⟩
    exact ⟨_, property?_eq_some.mpr ⟨raw, hraw, hblank, rfl⟩, rfl⟩

end JavaHomes.Config
