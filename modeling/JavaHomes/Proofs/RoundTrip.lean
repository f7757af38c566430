import JavaHomes.Proofs.ConstraintText
import JavaHomes.Proofs.JsonText
import JavaHomes.Version.Json

/-!
Versions and constraints come back from their own text, unless a number `1` in front of it is taken
for the old notation. What is read instead is written down, so that the exceptions are exactly
known: a version loses its first number, and a row of numbers loses it and with it one place.
-/

namespace JavaHomes

namespace Version

/-! ### Versions -/

variable {v : Version}

/-- What the text of a version is read as. -/
def reread (v : Version) : Version :=
  if v.major = 1 then ⟨v.minor, v.patch, 0⟩ else v

theorem reread_eq_self_iff : v.reread = v ↔ v.major ≠ 1 := by
  rw [reread]
  split
  · rename_i hmajor
    refine ⟨fun heq => ?_, fun hne => absurd hmajor hne⟩
    -- shifted by one place, the numbers stay the same only when all are zero
    have hminor : v.minor = v.major := congrArg Version.major heq
    have hpatch : v.patch = v.minor := congrArg Version.minor heq
    have hzero : 0 = v.patch := congrArg Version.patch heq
    rw [← hminor, ← hpatch, ← hzero] at hmajor
    exact absurd hmajor (by decide)
  · rename_i hmajor
    exact ⟨fun _ => hmajor, fun _ => rfl⟩

/-- The text of a version is a row of its three numbers. -/
theorem row_chars (v : Version) : Row v.chars [v.major, v.minor, v.patch] := by
  have hpatch := Row.last (Text.Decimal.denotes_write v.patch)
  have hminor := Row.cons (c := '.') (Text.Decimal.denotes_write v.minor) rfl hpatch
  have hmajor := Row.cons (c := '.') (Text.Decimal.denotes_write v.major) rfl hminor
  simpa [chars] using hmajor

theorem ofNumbers_modern (v : Version) :
    ofNumbers (modern [v.major, v.minor, v.patch]) = v.reread := by
  rw [modern, reread]
  split <;> rfl

theorem ofChars?_chars (v : Version) : ofChars? v.chars = some v.reread := by
  rw [(row_chars v).writes.ofChars?, ofNumbers_modern]

theorem parse?_text (v : Version) : parse? v.text = some v.reread := by
  rw [parse?, text, String.toList_ofList, ofChars?_chars]

/-- In the old notation every version can be read. -/
theorem exists_parse?_eq_some (v : Version) : ∃ s, parse? s = some v := by
  refine ⟨String.ofList ('1' :: '.' :: v.chars), ?_⟩
  rw [parse?, String.toList_ofList, (row_chars v).old.writes.ofChars?]
  rfl

/-- Every version is read from some text, and it comes back from its own text, also in JSON, if and
only if its first number is not `1`; if it is, the text is taken for the old notation. -/
theorem text_round_trip (v : Version) :
    (∃ s, parse? s = some v) ∧
      (parse? v.text = some v ↔ v.major ≠ 1) ∧
      (Json.read ofJson v.toJson.compact = .ok v ↔ v.major ≠ 1) ∧
      (v.major = 1 → parse? v.text = some ⟨v.minor, v.patch, 0⟩) := by
  refine ⟨exists_parse?_eq_some v, ?_, ?_, fun hmajor => ?_⟩
  · rw [parse?_text, Option.some.injEq, reread_eq_self_iff]
  · have hread : Json.read ofJson v.toJson.compact = .ok v.reread :=
      Json.read_meaning_compact (parse?_text v)
    rw [hread, Except.ok.injEq, reread_eq_self_iff]
  · rw [parse?_text, reread, if_pos hmajor]

/-- The version of the text `1` does not come back. -/
theorem text_round_trip_one :
    parse? "1" = some ⟨1, 0, 0⟩ ∧ parse? (text ⟨1, 0, 0⟩) ≠ some ⟨1, 0, 0⟩ := by
  decide

end Version

namespace Constraint

/-! ### Constraints -/

open Version (Row)

variable {c : Constraint}

/-- The first numbers in a constraint. -/
def majors : Constraint → List UInt32
  | .major n => [n]
  | .majorMinor n _ => [n]
  | .atLeast least => [least.major]
  | .exact version => [version.major]
  | .between least bound => [least.major, bound.major]

/-- What the text of a constraint is read as. A row without its first number has one place less. -/
def reread : Constraint → Constraint
  | .major n => .major n
  | .majorMinor n m => if n = 1 then .major m else .majorMinor n m
  | .atLeast least => .atLeast least.reread
  | .exact version =>
    if version.major = 1 then .majorMinor version.minor version.patch else .exact version
  | .between least bound => .between least.reread bound.reread

theorem reread_eq_self_iff : c.reread = c ↔ (∃ n, c = .major n) ∨ 1 ∉ c.majors := by
  cases c with
  | major n => simp [reread]
  | majorMinor n m => by_cases hn : n = 1 <;> simp [reread, majors, hn, eq_comm]
  | atLeast least =>
    simp [reread, majors, Version.reread_eq_self_iff, eq_comm (a := (1 : UInt32))]
  | exact version => by_cases hmajor : version.major = 1 <;> simp [reread, majors, hmajor, eq_comm]
  | between least bound =>
    simp [reread, majors, Version.reread_eq_self_iff, eq_comm (a := (1 : UInt32))]

/-- The text of a constraint is always read, as `reread` says. -/
theorem parse_text (c : Constraint) : parse c.text = .ok c.reread := by
  rw [parse, text, String.toList_ofList]
  have around : Text.Around Text.isBlank c.chars c.chars := Text.around_self _ _
  cases c with
  | major n =>
    have hrow := Row.last (Text.Decimal.denotes_write n)
    exact ofChars_release (.plain hrow) around
  | majorMinor n m =>
    have hrow := Row.cons (c := '.') (Text.Decimal.denotes_write n) rfl
      (.last (Text.Decimal.denotes_write m))
    rw [ofChars_release (.plain hrow) around, Version.modern, reread]
    by_cases hn : n = 1
    · rw [if_pos hn, if_pos hn]
      rfl
    · rw [if_neg hn, if_neg hn]
      rfl
  | atLeast least =>
    rw [ofChars_release_plus (.plain least.row_chars) around, Version.ofNumbers_modern]
    rfl
  | exact version =>
    rw [ofChars_release (.plain version.row_chars) around, Version.modern, reread]
    by_cases hmajor : version.major = 1
    · rw [if_pos hmajor, if_pos hmajor]
      rfl
    · rw [if_neg hmajor, if_neg hmajor]
      rfl
  | between least bound =>
    rw [ofChars_releases (.plain least.row_chars) (.plain bound.row_chars) around,
      Version.ofNumbers_modern, Version.ofNumbers_modern]
    rfl

/-- The text of a constraint is never refused, and it is read as the same constraint if and only if
only a first number stands in the constraint or no first number in it is `1`. -/
theorem text_round_trip_iff (c : Constraint) :
    (parse c.text = .ok c ↔ (∃ n, c = .major n) ∨ 1 ∉ c.majors) ∧ ∃ c', parse c.text = .ok c' := by
  rw [parse_text, Except.ok.injEq, reread_eq_self_iff]
  exact ⟨Iff.rfl, c.reread, rfl⟩

end Constraint

end JavaHomes
