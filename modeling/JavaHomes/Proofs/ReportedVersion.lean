import Mathlib.Data.List.TakeWhile
import JavaHomes.Proofs.VersionText

/-!
Version texts as launchers report them: a row of numerals, perhaps a tag behind it, perhaps double
quotes around both and white space around the whole. Each of them is read, as the first three
numbers of the row behind the `1` of the old notation. Of any text at all, what stands in front of
the first separator or tag decides whether it is read.
-/

namespace JavaHomes.Version

open Text (Around)
open Text.Decimal (Denotes readWord?)

variable {s row tag quoted : List Char} {ns : List UInt32}

/-! ### The numbers that are taken -/

theorem ofNumbers_eq (ns : List UInt32) :
    ofNumbers ns = ⟨ns.getD 0 0, ns.getD 1 0, ns.getD 2 0⟩ := by
  match ns with
  | [] => rfl
  | [_] => rfl
  | [_, _] => rfl
  | _ :: _ :: _ :: _ => rfl

/-! ### The first component -/

/-- What stands in a version text in front of the first separator or tag. -/
def firstWord (s : List Char) : List Char :=
  (bare s).takeWhile fun c => !isSeparator c && !startsTag c

theorem head?_components (s : List Char) :
    (components s).head? = some (readWord? (firstWord s)) := by
  have hword : (core s).takeWhile (fun c => !isSeparator c) = firstWord s := by
    rw [core, List.takeWhile_takeWhile, firstWord, bare]
    simp
  rw [components, List.head?_map, Text.head?_splitBy, hword, Option.map_some]

theorem parse?_eq_none_iff {s : String} :
    parse? s = none ↔ ¬ ∃ n, Denotes (firstWord s.toList) n := by
  rw [parse?, ofChars?, Option.map_eq_none_iff, numbers?_eq_none_iff, head?_components,
    Option.some.injEq, Option.eq_none_iff_forall_ne_some]
  simp only [ne_eq, Text.Decimal.readWord?_eq_some, not_exists]

/-- Every text that launchers report is read as the first three numbers of its row, without the `1`
of the old notation, where missing numbers are zero. A text is not read exactly when what stands in
front of its first separator or tag is no numeral of 32 bits. -/
theorem parse_reported (s : String) :
    (∀ row tag quoted ns, Row row ns → IsTag tag → Around (· == '"') (row ++ tag) quoted →
      Around Text.isBlank quoted s.toList →
        parse? s = some
          (if ns.head? = some 1 ∧ ns.length ≠ 1 then ⟨ns.getD 1 0, ns.getD 2 0, ns.getD 3 0⟩
          else ⟨ns.getD 0 0, ns.getD 1 0, ns.getD 2 0⟩)) ∧
      (parse? s = none ↔
        ¬ (firstWord s.toList ≠ [] ∧ (∀ c ∈ firstWord s.toList, c.isDigit = true) ∧
          Text.Decimal.value (firstWord s.toList) ≤ 4294967295)) := by
  constructor
  · intro row tag quoted ns hrow htag hquoted hs
    rw [parse?, (hrow.writes_around htag hquoted hs).ofChars?, modern_eq]
    split
    · simp [ofNumbers_eq]
    · rw [ofNumbers_eq]
  · rw [parse?_eq_none_iff, Text.Decimal.exists_denotes_iff]

/-- An old version with leading zeros, underscores and a tag, in quotes and blanks. -/
theorem parse_reported_quoted :
    Row "1_08.0_292_7".toList [1, 8, 0, 292, 7] ∧ IsTag "-b10 x".toList ∧
      Around (· == '"') "1_08.0_292_7-b10 x".toList "\"1_08.0_292_7-b10 x\"".toList ∧
      Around Text.isBlank "\"1_08.0_292_7-b10 x\"".toList "  \"1_08.0_292_7-b10 x\"\t".toList ∧
      parse? "  \"1_08.0_292_7-b10 x\"\t" = some ⟨8, 0, 292⟩ := by
  have hrow : Row "1_08.0_292_7".toList [1, 8, 0, 292, 7] := row_iff.mpr (by decide)
  have htag : IsTag "-b10 x".toList := by simp [IsTag, startsTag]
  have hquoted :
      Around (· == '"') "1_08.0_292_7-b10 x".toList "\"1_08.0_292_7-b10 x\"".toList :=
    ⟨['"'], ['"'], by simp, by simp, by decide⟩
  have hs : Around Text.isBlank "\"1_08.0_292_7-b10 x\"".toList
      "  \"1_08.0_292_7-b10 x\"\t".toList :=
    ⟨[' ', ' '], ['\t'], by simp [Text.isBlank], by simp [Text.isBlank], by decide⟩
  exact ⟨hrow, htag, hquoted, hs,
    (parse_reported "  \"1_08.0_292_7-b10 x\"\t").1 _ _ _ _ hrow htag hquoted hs⟩

end JavaHomes.Version
