import JavaHomes.Proofs.ConstraintText

/-!
Constraints and the version texts that they are taken from. The first components of a version text
are a constraint that admits the version, and with each component less the constraint is wider. The
old notation of a version text makes no other constraint than the new one, alone, as a lower bound
and as either end of an interval.
-/

namespace JavaHomes

namespace Version

variable {w row : List Char} {ns : List UInt32} {k : Nat}

/-! ### The first components -/

/-- The first `k` components of a text, with the separators between them. -/
def leading : (k : Nat) → List Char → List Char
  | 0, _ => []
  | _ + 1, [] => []
  | k + 1, c :: s =>
    if isSeparator c then if k = 0 then [] else c :: leading k s
    else c :: leading (k + 1) s

theorem leading_append (hw : ∀ c ∈ w, isSeparator c = false) (k : Nat) (s : List Char) :
    leading (k + 1) (w ++ s) = w ++ leading (k + 1) s := by
  induction w with
  | nil => rfl
  | cons c w ih =>
    have hc : ¬ isSeparator c = true := by simp [hw c List.mem_cons_self]
    rw [List.cons_append, leading, if_neg hc, ih fun d hd => hw d (List.mem_cons_of_mem c hd),
      List.cons_append]

/-- The first components of a row are a row of its first numbers. -/
theorem Row.leading (h : Row row ns) (hk : k < ns.length) :
    Row (leading (k + 1) row) (ns.take (k + 1)) := by
  induction h generalizing k with
  | @last w n hw =>
    have hlead : leading (k + 1) w = w := by
      simpa [Version.leading] using leading_append (isSeparator_of_denotes hw) k []
    rw [hlead, List.take_succ_cons, List.take_nil]
    exact .last hw
  | @cons w s c n ns hw hc _ ih =>
    rw [leading_append (isSeparator_of_denotes hw), Version.leading, if_pos hc, List.take_succ_cons]
    cases k with
    | zero =>
      rw [if_pos rfl, List.append_nil, List.take_zero]
      exact .last hw
    | succ k =>
      rw [if_neg k.succ_ne_zero]
      exact .cons hw hc (ih (Nat.lt_of_succ_lt_succ hk))

theorem modern_ne_nil (h : ns ≠ []) : modern ns ≠ [] := by
  match ns with
  | [_] => simp [modern]
  | first :: next :: rest =>
    rw [modern]
    split <;> simp

/-- Fewer numbers are the beginning of more, also without the `1` of the old notation, unless
nothing but the `1` is taken. -/
theorem modern_take_prefix (h : ns.head? ≠ some 1 ∨ 2 ≤ k) : modern (ns.take k) <+: modern ns := by
  match ns, k with
  | [], _ => simp
  | _ :: _, 0 => simp [modern]
  | [n], k + 1 => simp
  | first :: next :: rest, 1 =>
    have hfirst : first ≠ 1 := by simpa using h
    simp [modern, hfirst]
  | first :: next :: rest, k + 2 =>
    have htake : rest.take k <+: rest := List.take_prefix k rest
    by_cases hfirst : first = 1 <;> simp [modern, hfirst, htake]

end Version

namespace Constraint

open Text (Around)
open Version (Row IsTag Release leading modern)

variable {row tag t u : List Char} {ns ms : List UInt32} {k : Nat}

/-! ### Prefixes -/

/-- What agrees with more numbers agrees with the first ones of them. -/
theorem admits_of_prefix (h : ms <+: ns) (hne : ms ≠ []) {v : Version}
    (hv : (ofNumbers ns).admits v = true) : (ofNumbers ms).admits v = true := by
  obtain ⟨rest, rfl⟩ := h
  -- three numbers or more admit a single version, and that one starts with the fewer numbers
  match ms, rest with
  | [_], [] => exact hv
  | [_], [_] =>
    rw [List.singleton_append, ofNumbers, admits, Bool.and_eq_true] at hv
    exact hv.1
  | [_], _ :: _ :: _ =>
    obtain rfl : v = _ := beq_iff_eq.mp hv
    simp [ofNumbers, admits, Version.ofNumbers]
  | [_, _], [] => exact hv
  | [_, _], _ :: _ =>
    obtain rfl : v = _ := beq_iff_eq.mp hv
    simp [ofNumbers, admits, Version.ofNumbers]
  | _ :: _ :: _ :: _, _ => exact hv

theorem admits_ofNumbers (ns : List UInt32) :
    (ofNumbers ns).admits (Version.ofNumbers ns) = true := by
  match ns with
  | [] | [_] | [_, _] | _ :: _ :: _ :: _ => simp [ofNumbers, admits, Version.ofNumbers]

theorem parse_of_row (h : Row row ns) :
    parse (String.ofList row) = .ok (ofNumbers (modern ns)) := by
  rw [parse, String.toList_ofList]
  exact ofChars_release (.plain h) (Text.around_self _ _)

/-- The first components of a version text, unless they are the `1` of the old notation alone, are
the text of a constraint that admits the version; and whatever one component more admits is admitted
without it. -/
theorem parse_leading (hrow : Row row ns) (htag : IsTag tag) (hk : 1 ≤ k) (hle : k ≤ ns.length)
    (hold : ns.head? ≠ some 1 ∨ 2 ≤ k) :
    ∃ c v, parse (String.ofList (leading k row)) = .ok c ∧
      Version.parse? (String.ofList (row ++ tag)) = some v ∧ c.admits v = true ∧
      (k < ns.length → ∃ c', parse (String.ofList (leading (k + 1) row)) = .ok c' ∧
        ∀ w, c'.admits w = true → c.admits w = true) := by
  obtain ⟨k, rfl⟩ := Nat.exists_eq_add_of_le' hk
  have hne : modern (ns.take (k + 1)) ≠ [] := Version.modern_ne_nil (hrow.leading hle).ne_nil
  have hread : Version.parse? (String.ofList (row ++ tag)) = some (.ofNumbers (modern ns)) := by
    rw [Version.parse?, String.toList_ofList,
      (hrow.writes_around htag (Text.around_self _ _) (Text.around_self _ _)).ofChars?]
  refine ⟨_, _, parse_of_row (hrow.leading hle), hread, ?_, fun hlt => ?_⟩
  · exact admits_of_prefix (Version.modern_take_prefix hold) hne (admits_ofNumbers _)
  · refine ⟨_, parse_of_row (hrow.leading hlt), fun w => admits_of_prefix ?_ hne⟩
    have htake : (ns.take (k + 2)).take (k + 1) = ns.take (k + 1) := by simp [List.take_take]
    have hhead : (ns.take (k + 2)).head? = ns.head? := by simp [List.head?_take]
    rw [← htake]
    exact Version.modern_take_prefix (by rwa [hhead])

/-- Two components of an old version. -/
theorem parse_leading_old :
    Row "1.8.0_292".toList [1, 8, 0, 292] ∧ IsTag "-b10".toList ∧
      leading 2 "1.8.0_292".toList = "1.8".toList ∧
      ∃ c v, parse "1.8" = .ok c ∧ Version.parse? "1.8.0_292-b10" = some v ∧ c.admits v = true ∧
        ∃ c', parse "1.8.0" = .ok c' ∧ ∀ w, c'.admits w = true → c.admits w = true := by
  have hrow : Row "1.8.0_292".toList [1, 8, 0, 292] := Version.row_iff.mpr (by decide)
  have htag : IsTag "-b10".toList := by simp [IsTag, Version.startsTag]
  obtain ⟨c, v, hc, hv, hadmits, hmore⟩ :=
    parse_leading (k := 2) hrow htag (by decide) (by decide) (.inr (by decide))
  exact ⟨hrow, htag, by decide, c, v, hc, hv, hadmits, hmore (by decide)⟩

/-! ### Both notations -/

/-- A version text in the new notation and in the old one. -/
def spellings (t : List Char) : List (List Char) :=
  [t, '1' :: '.' :: t]

/-- In either notation the numbers of a version text are the same. -/
theorem exists_release_of_mem_spellings (h : Release t ns) (hone : ns.head? ≠ some 1)
    {t' : List Char} (ht' : t' ∈ spellings t) : ∃ ns', Release t' ns' ∧ modern ns' = ns := by
  rcases List.mem_pair.mp ht' with rfl | rfl
  · refine ⟨ns, h, ?_⟩
    rw [Version.modern_eq, if_neg fun hold => hone hold.1]
  · refine ⟨1 :: ns, h.old, ?_⟩
    have hlength : (1 :: ns).length ≠ 1 := by simpa using h.numbers_ne_nil
    rw [Version.modern_eq, if_pos ⟨rfl, hlength⟩, List.tail_cons]

/-- The notation of a version text makes no difference to the constraint, nor does white space
around it: whether it stands alone, as a lower bound, or on either side of an interval, of which
each side may have its own notation. -/
theorem parse_spellings (ht : Release t ns) (htone : ns.head? ≠ some 1) (hu : Release u ms)
    (huone : ms.head? ≠ some 1) :
    (∀ t' ∈ spellings t, ∀ s : String, Around Text.isBlank t' s.toList →
      parse s = .ok (ofNumbers ns)) ∧
    (∀ t' ∈ spellings t, ∀ s : String, Around Text.isBlank (t' ++ ['+']) s.toList →
      parse s = .ok (.atLeast (.ofNumbers ns))) ∧
    (∀ t' ∈ spellings t, ∀ u' ∈ spellings u, ∀ s : String,
      Around Text.isBlank (t' ++ '.' :: '.' :: u') s.toList →
        parse s = .ok (.between (.ofNumbers ns) (.ofNumbers ms))) := by
  refine ⟨?_, ?_, ?_⟩
  · intro t' ht' s hs
    obtain ⟨ns', hread, hmodern⟩ := exists_release_of_mem_spellings ht htone ht'
    rw [parse, ofChars_release hread hs, hmodern]
  · intro t' ht' s hs
    obtain ⟨ns', hread, hmodern⟩ := exists_release_of_mem_spellings ht htone ht'
    rw [parse, ofChars_release_plus hread hs, hmodern]
  · intro t' ht' u' hu' s hs
    obtain ⟨ns', hread, hmodern⟩ := exists_release_of_mem_spellings ht htone ht'
    obtain ⟨ms', hread', hmodern'⟩ := exists_release_of_mem_spellings hu huone hu'
    rw [parse, ofChars_releases hread hread' hs, hmodern, hmodern']

/-- An update of the eighth release and the eleventh release, one of them in the old notation. -/
theorem parse_spellings_update :
    Release "8.0_292-b10".toList [8, 0, 292] ∧ Release "11".toList [11] ∧
      parse "1.8.0_292-b10 " = .ok (.exact ⟨8, 0, 292⟩) ∧
      parse "1.8.0_292-b10+" = .ok (.atLeast ⟨8, 0, 292⟩) ∧
      parse " 1.8.0_292-b10..11" = .ok (.between ⟨8, 0, 292⟩ ⟨11, 0, 0⟩) ∧
      parse "8.0_292-b10..1.11\t" = .ok (.between ⟨8, 0, 292⟩ ⟨11, 0, 0⟩) := by
  have ht : Release "8.0_292-b10".toList [8, 0, 292] := by
    have hrow : Row "8.0_292".toList [8, 0, 292] := Version.row_iff.mpr (by decide)
    have htext : "8.0_292-b10".toList = "8.0_292".toList ++ '-' :: "b10".toList := by decide
    rw [htext]
    exact .tagged hrow (by simp)
  have hu : Release "11".toList [11] := .plain (Version.row_iff.mpr (by decide))
  obtain ⟨halone, hplus, hbetween⟩ := parse_spellings ht (by decide) hu (by decide)
  refine ⟨ht, hu, ?_, ?_, ?_, ?_⟩
  · exact halone _ (.tail _ (.head _)) _ ⟨[], [' '], by simp, by simp [Text.isBlank], by decide⟩
  · exact hplus _ (.tail _ (.head _)) _ ⟨[], [], by simp, by simp, by decide⟩
  · exact hbetween _ (.tail _ (.head _)) _ (.head _) _
      ⟨[' '], [], by simp [Text.isBlank], by simp, by decide⟩
  · exact hbetween _ (.head _) _ (.tail _ (.head _)) _
      ⟨[], ['\t'], by simp, by simp [Text.isBlank], by decide⟩

end Constraint

end JavaHomes
