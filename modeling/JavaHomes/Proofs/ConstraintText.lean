import JavaHomes.Proofs.VersionText
import JavaHomes.Version.Constraint

/-!
The grammar of constraint texts and what their reader makes of them. A constraint is a version text,
one with a plus sign behind it, or two with two dots between them. The reader finds the version
texts inside a constraint first and reads each on its own; the first one that is unreadable is the
fault. A release is read as the constraint of its numbers, and so are a lower bound and an interval
of releases. A text none of whose versions is left half read is accepted only if it is of the
grammar.
-/

namespace JavaHomes

namespace Constraint

open Text (Around Skips)
open Version (Release Writes ReadInFull components modern)

variable {s v w : List Char} {ns ms : List UInt32}

/-! ### The grammar -/

/-- The documented forms of a constraint. -/
inductive Written : List Char → Prop
  | row {v : List Char} {ns : List UInt32} (hv : Writes v ns) : Written v
  | atLeast {v : List Char} {ns : List UInt32} (hv : Writes v ns) : Written (v ++ ['+'])
  | between {v w : List Char} {ns ms : List UInt32} (hv : Writes v ns) (hw : Writes w ms) :
      Written (v ++ '.' :: '.' :: w)

/-- The version texts in a constraint: what stands before and behind the first two dots, or else
before a plus sign at the end, or else the whole. -/
def versionTexts (s : List Char) : List (List Char) :=
  match Text.splitOnce ['.', '.'] s with
  | some (least, bound) => [least, bound]
  | none => if s.getLast? = some '+' then [s.dropLast] else [s]

/-- The three forms that the reader tells apart: which version texts it finds in each, and what it
does with them. -/
theorem ofTrimmed_forms (s : List Char) :
    (∃ least bound, s = least ++ '.' :: '.' :: bound ∧ versionTexts s = [least, bound] ∧
      ofTrimmed s = do return .between (← version least) (← version bound)) ∨
    (∃ least, s = least ++ ['+'] ∧ versionTexts s = [least] ∧
      ofTrimmed s = (version least).map .atLeast) ∨
    (versionTexts s = [s] ∧ ofTrimmed s = ofNumerals s) := by
  rw [versionTexts, ofTrimmed]
  cases hsplit : Text.splitOnce ['.', '.'] s with
  | some sides =>
    obtain ⟨least, bound⟩ := sides
    exact .inl ⟨least, bound, Text.splitOnce_eq_some hsplit, rfl, rfl⟩
  | none =>
    by_cases hplus : s.getLast? = some '+'
    · refine .inr (.inl ⟨s.dropLast, (List.dropLast_append_getLast? '+' hplus).symm, ?_, ?_⟩)
      · exact if_pos hplus
      · exact if_pos hplus
    · exact .inr (.inr ⟨if_neg hplus, if_neg hplus⟩)

theorem written_of_versionTexts (h : ∀ v ∈ versionTexts s, ∃ ns, Writes v ns) : Written s := by
  rcases ofTrimmed_forms s with
    ⟨least, bound, rfl, htexts, -⟩ | ⟨least, rfl, htexts, -⟩ | ⟨htexts, -⟩
  all_goals rw [htexts] at h
  · obtain ⟨ns, hleast⟩ := h least (by simp)
    obtain ⟨ms, hbound⟩ := h bound (by simp)
    exact .between hleast hbound
  · obtain ⟨ns, hleast⟩ := h least (by simp)
    exact .atLeast hleast
  · obtain ⟨ns, hrow⟩ := h s (by simp)
    exact .row hrow

/-! ### What is read -/

/-- The constraint of a row of numbers: as much of a version has to agree as there are numbers. -/
def ofNumbers : List UInt32 → Constraint
  | [n] => .major n
  | [n, m] => .majorMinor n m
  | ns => .exact (.ofNumbers ns)

theorem version_of_numbers (h : Version.numbers? v = some ns) :
    version v = .ok (.ofNumbers ns) := by
  rw [version, Version.ofChars?, h]
  rfl

theorem ofNumerals_of_numbers (h : Version.numbers? v = some ns) :
    ofNumerals v = .ok (ofNumbers ns) := by
  rw [ofNumerals, h]
  match ns with
  | [] | [_] | [_, _] | _ :: _ :: _ :: _ => rfl

theorem version_of_readable (h : Version.numbers? v ≠ none) : ∃ w, version v = .ok w := by
  obtain ⟨ns, hns⟩ := Option.ne_none_iff_exists'.mp h
  exact ⟨.ofNumbers ns, version_of_numbers hns⟩

theorem version_of_unreadable (h : Version.numbers? v = none) :
    version v = .error (.unreadable (String.ofList v)) := by
  rw [version, Version.ofChars?, h]
  rfl

/-- A constraint is accepted when each of its version texts is readable. -/
theorem ofTrimmed_of_readable (h : ∀ v ∈ versionTexts s, Version.numbers? v ≠ none) :
    ∃ c, ofTrimmed s = .ok c := by
  rcases ofTrimmed_forms s with
    ⟨least, bound, -, htexts, heq⟩ | ⟨least, -, htexts, heq⟩ | ⟨htexts, heq⟩
  all_goals rw [htexts] at h; rw [heq]
  · obtain ⟨v, hleast⟩ := version_of_readable (h least (by simp))
    obtain ⟨w, hbound⟩ := version_of_readable (h bound (by simp))
    exact ⟨.between v w, by rw [hleast, hbound]; rfl⟩
  · obtain ⟨v, hleast⟩ := version_of_readable (h least (by simp))
    exact ⟨.atLeast v, by rw [hleast]; rfl⟩
  · obtain ⟨ns, hns⟩ := Option.ne_none_iff_exists'.mp (h s (by simp))
    exact ⟨ofNumbers ns, ofNumerals_of_numbers hns⟩

/-- The fault of a constraint is a version text in it that is unreadable. -/
theorem ofTrimmed_of_unreadable (h : ∃ v ∈ versionTexts s, Version.numbers? v = none) :
    ∃ v ∈ versionTexts s, Version.numbers? v = none ∧
      ofTrimmed s = .error (.unreadable (String.ofList v)) := by
  rcases ofTrimmed_forms s with
    ⟨least, bound, -, htexts, heq⟩ | ⟨least, -, htexts, heq⟩ | ⟨htexts, heq⟩
  all_goals rw [htexts] at h ⊢; rw [heq]
  · by_cases hleast : Version.numbers? least = none
    · exact ⟨least, by simp, hleast, by rw [version_of_unreadable hleast]; rfl⟩
    · -- the lower bound is readable, so the upper one is not
      have hbound : Version.numbers? bound = none := by simpa [hleast] using h
      obtain ⟨v, hread⟩ := version_of_readable hleast
      exact ⟨bound, by simp, hbound, by rw [hread, version_of_unreadable hbound]; rfl⟩
  · have hleast : Version.numbers? least = none := by simpa using h
    exact ⟨least, by simp, hleast, by rw [version_of_unreadable hleast]; rfl⟩
  · have hrow : Version.numbers? s = none := by simpa using h
    exact ⟨s, by simp, hrow, by rw [ofNumerals, hrow]⟩

/-! ### Releases -/

/-- White space around a text does not matter. -/
theorem ofChars_around (h : Around Text.isBlank v s) (hne : v ≠ [])
    (hblank : ∀ c ∈ v, Text.isBlank c = false) : ofChars s = ofTrimmed v := by
  have htrim : Text.trim s = v := h.trimBy_eq hne hblank
  rw [ofChars, htrim, if_neg (by simpa using hne)]

/-- A release alone is read as the constraint of its numbers. -/
theorem ofChars_release (h : Release v ns) (hs : Around Text.isBlank v s) :
    ofChars s = .ok (ofNumbers (modern ns)) := by
  have hplus : v.getLast? ≠ some '+' := fun hlast => h.plus_not_mem (List.mem_of_getLast? hlast)
  rw [ofChars_around hs h.ne_nil h.isBlank_eq_false]
  simp only [ofTrimmed, h.skips.splitOnce_eq_none (by simp), if_neg hplus,
    ofNumerals_of_numbers h.writes.numbers?]

/-- A release with a plus sign behind it is a lower bound. -/
theorem ofChars_release_plus (h : Release v ns) (hs : Around Text.isBlank (v ++ ['+']) s) :
    ofChars s = .ok (.atLeast (.ofNumbers (modern ns))) := by
  have hskips : Skips ['.', '.'] (v ++ ['+']) := h.skips.append (Text.skips_of_ne (by decide))
  have hblank : ∀ c ∈ v ++ ['+'], Text.isBlank c = false :=
    List.forall_mem_append.mpr ⟨h.isBlank_eq_false, List.forall_mem_singleton.mpr (by decide)⟩
  rw [ofChars_around hs (by simp) hblank]
  simp only [ofTrimmed, hskips.splitOnce_eq_none (by simp), List.getLast?_concat,
    List.dropLast_concat, if_pos, version_of_numbers h.writes.numbers?]
  rfl

/-- Two releases with two dots between them are an interval. -/
theorem ofChars_releases (h : Release v ns) (h' : Release w ms)
    (hs : Around Text.isBlank (v ++ '.' :: '.' :: w) s) :
    ofChars s = .ok (.between (.ofNumbers (modern ns)) (.ofNumbers (modern ms))) := by
  have hsplit := h.skips.splitOnce_append (by simp) w
  have hblank : ∀ c ∈ v ++ ('.' :: '.' :: w), Text.isBlank c = false :=
    List.forall_mem_append.mpr ⟨h.isBlank_eq_false, List.forall_mem_cons.mpr
      ⟨by decide, List.forall_mem_cons.mpr ⟨by decide, h'.isBlank_eq_false⟩⟩⟩
  rw [List.cons_append, List.singleton_append] at hsplit
  rw [ofChars_around hs (by simp) hblank]
  simp only [ofTrimmed, hsplit, version_of_numbers h.writes.numbers?,
    version_of_numbers h'.writes.numbers?]
  rfl

/-! ### Acceptance -/

theorem parse_of_ne_nil {s : String} (h : Text.trim s.toList ≠ []) :
    parse s = ofTrimmed (Text.trim s.toList) := by
  rw [parse, ofChars, if_neg (by simpa using h)]

/-- A text is accepted exactly when it is not blank and each version text in it is readable, that
is, starts with a readable component. -/
theorem exists_parse_eq_ok_iff {s : String} :
    (∃ c, parse s = .ok c) ↔ Text.trim s.toList ≠ [] ∧
      ∀ v ∈ versionTexts (Text.trim s.toList), Version.numbers? v ≠ none := by
  constructor
  · rintro ⟨c, hc⟩
    have hne : Text.trim s.toList ≠ [] := fun hnil => by
      rw [parse, ofChars, hnil] at hc
      cases hc
    refine ⟨hne, fun v hv hunread => ?_⟩
    obtain ⟨w, -, -, hfault⟩ := ofTrimmed_of_unreadable ⟨v, hv, hunread⟩
    rw [parse_of_ne_nil hne, hfault] at hc
    cases hc
  · rintro ⟨hne, hread⟩
    rw [parse_of_ne_nil hne]
    exact ofTrimmed_of_readable hread

/-- A constraint none of whose version texts is left half read is accepted only in one of the
documented forms; an unreadable component anywhere in front of a tag is a fault. -/
theorem parse_written {s : String}
    (h : ∀ v ∈ versionTexts (Text.trim s.toList), ReadInFull v) :
    (∀ c, parse s = .ok c → Written (Text.trim s.toList)) ∧
      (Text.trim s.toList ≠ [] →
        (∃ v ∈ versionTexts (Text.trim s.toList), none ∈ components v) →
        ∃ v ∈ versionTexts (Text.trim s.toList), none ∈ components v ∧
          parse s = .error (.unreadable (String.ofList v))) := by
  constructor
  · intro c hc
    obtain ⟨-, hread⟩ := exists_parse_eq_ok_iff.mp ⟨c, hc⟩
    exact written_of_versionTexts fun v hv => (h v hv).writes (hread v hv)
  · rintro hne ⟨v, hv, hnone⟩
    -- read in full and with an unreadable component: the first one is unreadable
    have hunread : Version.numbers? v = none :=
      Version.numbers?_eq_none_iff.mpr ((h v hv).resolve_right fun hall => hall hnone)
    obtain ⟨w, hw, hwunread, hfault⟩ := ofTrimmed_of_unreadable ⟨v, hv, hunread⟩
    have hwnone : none ∈ components w :=
      List.mem_of_mem_head? (Version.numbers?_eq_none_iff.mp hwunread)
    exact ⟨w, hw, hwnone, by rw [parse_of_ne_nil hne, hfault]⟩

/-- An interval with quotes, blanks, an underscore and a tag. -/
theorem parse_written_quoted :
    (∀ v ∈ versionTexts (Text.trim "\"11.0_2\" ..21-ea ".toList), ReadInFull v) ∧
      parse "\"11.0_2\" ..21-ea " = .ok (.between ⟨11, 0, 2⟩ ⟨21, 0, 0⟩) ∧
      Written (Text.trim "\"11.0_2\" ..21-ea ".toList) := by
  have h : ∀ v ∈ versionTexts (Text.trim "\"11.0_2\" ..21-ea ".toList), ReadInFull v := by decide
  have hparse : parse "\"11.0_2\" ..21-ea " = .ok (.between ⟨11, 0, 2⟩ ⟨21, 0, 0⟩) := by decide
  exact ⟨h, hparse, (parse_written h).1 _ hparse⟩

/-- A slip of the finger in the third number makes the constraint a wider one. -/
theorem parse_slip :
    parse "17.0.2x" = .ok (.majorMinor 17 0) ∧ ¬ Written (Text.trim "17.0.2x".toList) := by
  refine ⟨by decide, fun h => ?_⟩
  have hnone : none ∈ components (Text.trim "17.0.2x".toList) := by decide
  have hlast : (Text.trim "17.0.2x".toList).getLast? ≠ some '+' := by decide
  have hdots : Text.splitOnce ['.', '.'] (Text.trim "17.0.2x".toList) = none := by decide
  generalize Text.trim "17.0.2x".toList = s at h hnone hlast hdots
  cases h with
  | row hv =>
    rw [Version.writes_iff.mp hv] at hnone
    simp at hnone
  | atLeast hv => exact hlast List.getLast?_concat
  | between hv hw => exact Text.splitOnce_ne_none (by simp) _ _ hdots

end Constraint

end JavaHomes
