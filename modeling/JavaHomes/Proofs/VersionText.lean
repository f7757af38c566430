import JavaHomes.Proofs.Decimal
import JavaHomes.Proofs.Text
import JavaHomes.Version.Basic

/-!
The grammar of version texts and what their reader makes of them. A version text is a row of
numerals with separators between them and perhaps a tag behind it; white space and then double
quotes may stand around the whole. The reader looks at the components between the separators: on
the texts of the grammar all of them are readable, and the numbers read are the numbers written,
without the `1` of the old notation.
-/

namespace JavaHomes.Version

open Text (Around Skips)
open Text.Decimal (Denotes readWord?)

variable {s v quoted row tag tag' : List Char} {c : Char} {first : UInt32}
  {others : List (Option UInt32)} {ns : List UInt32}

/-! ### The grammar -/

/-- Numerals with one separator between each two, and the numbers that they denote. -/
inductive Row : List Char → List UInt32 → Prop
  | last {w : List Char} {n : UInt32} (hw : Denotes w n) : Row w [n]
  | cons {w s : List Char} {c : Char} {n : UInt32} {ns : List UInt32} (hw : Denotes w n)
      (hc : isSeparator c = true) (hs : Row s ns) : Row (w ++ c :: s) (n :: ns)

/-- Nothing, or a text that starts as a tag does. -/
def IsTag (s : List Char) : Prop :=
  ∀ c ∈ s.head?, startsTag c = true

/-- A text without the white space around it and the double quotes around what is then left. -/
def bare (s : List Char) : List Char :=
  Text.trimBy (· == '"') (Text.trim s)

/-- A row, perhaps with a hyphen and a word of letters and digits behind it. -/
inductive Release : List Char → List UInt32 → Prop
  | plain {row : List Char} {ns : List UInt32} (h : Row row ns) : Release row ns
  | tagged {row word : List Char} {ns : List UInt32} (h : Row row ns)
      (hword : ∀ c ∈ word, c.isAlphanum = true) : Release (row ++ '-' :: word) ns

/-- A version text with the numbers that stand in it. -/
def Writes (s : List Char) (ns : List UInt32) : Prop :=
  ∃ row tag, Row row ns ∧ IsTag tag ∧ bare s = row ++ tag

/-! ### Rows -/

theorem isSeparator_eq_true : isSeparator c = true ↔ c = '.' ∨ c = '_' := by
  simp [isSeparator]

theorem isSeparator_of_isDigit (h : c.isDigit = true) : isSeparator c = false := by
  rw [← Bool.not_eq_true, isSeparator_eq_true]
  rintro (rfl | rfl) <;> exact absurd h (by decide)

/-- No separator stands inside a numeral. -/
theorem isSeparator_of_denotes {w : List Char} {n : UInt32} (hw : Denotes w n) :
    ∀ c ∈ w, isSeparator c = false :=
  fun c hc => isSeparator_of_isDigit (hw.digits c hc)

theorem isBlank_of_quote (h : (c == '"') = true) : Text.isBlank c = false := by
  rw [beq_iff_eq.mp h]
  decide

/-- The codes of letters and digits lie between those of `0` and `z`. -/
theorem toNat_of_isAlphanum (h : c.isAlphanum = true) : 48 ≤ c.toNat ∧ c.toNat ≤ 122 := by
  rcases Bool.or_eq_true_iff.mp h with hletter | hdigit
  · rcases Bool.or_eq_true_iff.mp hletter with hupper | hlower
    · have hupper : 65 ≤ c.toNat ∧ c.toNat ≤ 90 := of_decide_eq_true hupper
      omega
    · obtain ⟨hlow, hhigh⟩ := Bool.and_eq_true_iff.mp hlower
      have hlow : 97 ≤ c.toNat := of_decide_eq_true hlow
      have hhigh : c.toNat ≤ 122 := of_decide_eq_true hhigh
      omega
  · have hdigit : 48 ≤ c.toNat ∧ c.toNat ≤ 57 := Char.isDigit_iff_toNat.mp hdigit
    omega

theorem isBlank_of_isAlphanum (h : c.isAlphanum = true) : Text.isBlank c = false := by
  obtain ⟨hlow, hhigh⟩ := toNat_of_isAlphanum h
  simp only [Text.isBlank, Bool.or_eq_false_iff, Bool.and_eq_false_iff, decide_eq_false_iff_not,
    beq_eq_false_iff_ne]
  omega

/-- A text is a row exactly when the pieces between its separators are numerals. -/
theorem row_iff :
    Row s ns ↔ (Text.splitBy isSeparator s).map readWord? = ns.map some := by
  constructor
  · intro h
    induction h with
    | last hw =>
      rw [Text.splitBy_of_forall (isSeparator_of_denotes hw)]
      simp [Text.Decimal.readWord?_eq_some.mpr hw]
    | cons hw hsep _ ih =>
      rw [Text.splitBy_append_cons (isSeparator_of_denotes hw) hsep]
      simp [Text.Decimal.readWord?_eq_some.mpr hw, ih]
  · intro h
    induction ns generalizing s with
    | nil =>
      rw [List.map_nil, List.map_eq_nil_iff] at h
      exact absurd h (Text.splitBy_ne_nil _ s)
    | cons n ns ih =>
      obtain ⟨w, words, hsplit, hw, hwords⟩ := List.map_eq_cons_iff.mp h
      have hw := Text.Decimal.readWord?_eq_some.mp hw
      rcases Text.splitBy_eq_cons hsplit with ⟨rfl, rfl⟩ | ⟨c, s', hsep, rfl, rfl⟩
      · obtain rfl : ns = [] := by simpa using hwords.symm
        exact .last hw
      · exact .cons hw hsep (ih hwords)

namespace Row

theorem ne_nil (h : Row row ns) : ns ≠ [] := by
  cases h <;> exact List.cons_ne_nil _ _

theorem isDigit_or_isSeparator (h : Row row ns) :
    ∀ c ∈ row, c.isDigit = true ∨ isSeparator c = true := by
  induction h with
  | last hw => exact fun c hc => .inl (hw.digits c hc)
  | cons hw hsep _ ih =>
    intro c hc
    rcases List.mem_append.mp hc with hc | hc
    · exact .inl (hw.digits c hc)
    rcases List.mem_cons.mp hc with rfl | hc
    · exact .inr hsep
    · exact ih c hc

/-- A class of characters without digits and separators has no character in common with a row. -/
theorem avoids {p : Char → Bool} (h : Row row ns)
    (hdigit : ∀ d : Char, d.isDigit = true → p d = false) (hdot : p '.' = false)
    (hline : p '_' = false) : ∀ c ∈ row, p c = false := by
  intro c hc
  rcases h.isDigit_or_isSeparator c hc with hd | hsep
  · exact hdigit c hd
  · rcases isSeparator_eq_true.mp hsep with rfl | rfl
    · exact hdot
    · exact hline

theorem startsTag_eq_false (h : Row row ns) : ∀ c ∈ row, startsTag c = false := by
  refine h.avoids (fun d hd => ?_) rfl rfl
  rw [← Bool.not_eq_true]
  intro htag
  obtain (rfl | rfl) | rfl : (d = '+' ∨ d = '-') ∨ d = ' ' := by simpa [startsTag] using htag
  all_goals exact absurd hd (by decide)

theorem isBlank_eq_false (h : Row row ns) : ∀ c ∈ row, Text.isBlank c = false := by
  refine h.avoids (fun d hd => isBlank_of_isAlphanum ?_) (by decide) (by decide)
  rw [Char.isAlphanum, hd, Bool.or_true]

theorem quote_ne (h : Row row ns) : ∀ c ∈ row, (c == '"') = false := by
  refine h.avoids (fun d hd => ?_) rfl rfl
  rw [beq_eq_false_iff_ne]
  rintro rfl
  exact absurd hd (by decide)

/-- The part in front of the tag is the row itself. -/
theorem takeWhile_append (h : Row row ns) (htag : IsTag tag) :
    (row ++ tag).takeWhile (fun c => !startsTag c) = row := by
  rw [List.takeWhile_append_of_pos fun c hc => by rw [h.startsTag_eq_false c hc]; rfl]
  cases tag with
  | nil => simp
  | cons c tag => simp [htag c rfl]

theorem exists_eq_cons (h : Row row ns) : ∃ c s, c.isDigit = true ∧ row = c :: s := by
  cases h with
  | last hw => exact hw.exists_eq_cons
  | cons hw _ _ =>
    obtain ⟨c, s, hc, rfl⟩ := hw.exists_eq_cons
    exact ⟨c, _, hc, rfl⟩

theorem ne_nil_row (h : Row row ns) : row ≠ [] := by
  obtain ⟨c, s, -, rfl⟩ := h.exists_eq_cons
  exact List.cons_ne_nil c s

/-- Two dots are not found inside a row, whatever stands behind it. -/
theorem skips (h : Row row ns) : Skips ['.', '.'] row := by
  have numeral {w : List Char} {n : UInt32} (hw : Denotes w n) : Skips ['.', '.'] w :=
    Text.skips_of_not_mem fun hdot => absurd (hw.digits _ hdot) (by decide)
  induction h with
  | last hw => exact numeral hw
  | cons hw hsep hs ih =>
    refine (numeral hw).append ?_
    rcases isSeparator_eq_true.mp hsep with rfl | rfl
    · -- a digit stands behind the dot
      obtain ⟨c, s, hc, rfl⟩ := hs.exists_eq_cons
      refine ih.cons_lone ?_
      rintro rfl
      exact absurd hc (by decide)
    · exact (Text.skips_of_ne (by decide)).append ih

/-- A row in the old notation. -/
theorem old (h : Row row ns) : Row ('1' :: '.' :: row) (1 :: ns) :=
  .cons (w := ['1']) (Text.Decimal.denotes_write 1) rfl h

end Row

/-! ### What stands around a version text -/

theorem IsTag.of_prefix (h : IsTag tag) (hle : tag' <+: tag) : IsTag tag' := by
  intro c hc
  obtain ⟨rest, rfl⟩ := hle
  refine h c ?_
  cases tag' with
  | nil => cases hc
  | cons d tag' => exact hc

/-- Trimming takes away the white space and the quotes, and of what they enclose at most a part of
the tag. -/
theorem Row.exists_bare_eq (h : Row row ns) (hquoted : Around (· == '"') (row ++ tag) quoted)
    (hs : Around Text.isBlank quoted s) : ∃ tag', tag' <+: tag ∧ bare s = row ++ tag' := by
  obtain ⟨opening, closing, hopening, hclosing, rfl⟩ := hquoted
  -- the blanks are gone; at the end they may have taken some of the tag or of the quotes with them
  obtain ⟨rest, hrest, htrim⟩ : ∃ rest, rest <+: tag ++ closing ∧
      Text.trim s = (opening ++ row) ++ rest := by
    refine Around.exists_trimBy_eq (by simpa using hs) (by simp [h.ne_nil_row]) ?_
    refine List.forall_mem_append.mpr ⟨fun c hc => ?_, h.isBlank_eq_false⟩
    exact isBlank_of_quote (hopening c hc)
  obtain ⟨tag', closing', htag', hclosing', rfl⟩ : ∃ tag' closing', tag' <+: tag ∧
      (∀ c ∈ closing', (c == '"') = true) ∧ rest = tag' ++ closing' := by
    rcases List.prefix_or_prefix_of_prefix hrest (List.prefix_append tag closing) with
      hshort | ⟨closing', rfl⟩
    · exact ⟨rest, [], hshort, by simp, by simp⟩
    · have hclosing' := (List.prefix_append_right_inj tag).mp hrest
      exact ⟨tag, closing', List.prefix_refl _, fun c hc => hclosing c (hclosing'.subset hc), rfl⟩
  -- what is left has quotes around it, which go in the same way
  have hinner : Around (· == '"') (row ++ tag') (Text.trim s) :=
    ⟨opening, closing', hopening, hclosing', by simp [htrim]⟩
  obtain ⟨rest, hrest, hbare⟩ := hinner.exists_trimBy_eq h.ne_nil_row h.quote_ne
  exact ⟨rest, hrest.trans htag', hbare⟩

theorem Row.writes_around (h : Row row ns) (htag : IsTag tag)
    (hquoted : Around (· == '"') (row ++ tag) quoted) (hs : Around Text.isBlank quoted s) :
    Writes s ns := by
  obtain ⟨tag', htag', hbare⟩ := h.exists_bare_eq hquoted hs
  exact ⟨row, tag', h, htag.of_prefix htag', hbare⟩

theorem Row.writes (h : Row row ns) : Writes row ns := by
  have hnone : IsTag [] := by simp [IsTag]
  refine h.writes_around hnone ?_ (Text.around_self _ row)
  rw [List.append_nil]
  exact Text.around_self _ row

/-! ### Releases -/

namespace Release

theorem old (h : Release v ns) : Release ('1' :: '.' :: v) (1 :: ns) := by
  cases h with
  | plain h => exact .plain h.old
  | tagged h hword => exact .tagged h.old hword

theorem numbers_ne_nil (h : Release v ns) : ns ≠ [] := by
  cases h with
  | plain h => exact h.ne_nil
  | tagged h _ => exact h.ne_nil

theorem ne_nil (h : Release v ns) : v ≠ [] := by
  cases h with
  | plain h => exact h.ne_nil_row
  | tagged h _ => simp

theorem writes (h : Release v ns) : Writes v ns := by
  cases h with
  | plain h => exact h.writes
  | tagged h _ =>
    exact h.writes_around (by simp [IsTag, startsTag]) (Text.around_self _ _) (Text.around_self _ _)

theorem isBlank_eq_false (h : Release v ns) : ∀ c ∈ v, Text.isBlank c = false := by
  cases h with
  | plain h => exact h.isBlank_eq_false
  | tagged h hword =>
    refine List.forall_mem_append.mpr ⟨h.isBlank_eq_false, List.forall_mem_cons.mpr ⟨by decide, ?_⟩⟩
    exact fun c hc => isBlank_of_isAlphanum (hword c hc)

theorem skips (h : Release v ns) : Skips ['.', '.'] v := by
  cases h with
  | plain h => exact h.skips
  | tagged h hword =>
    refine h.skips.append (Text.skips_of_not_mem ?_)
    rw [List.mem_cons, not_or]
    exact ⟨by decide, fun hdot => absurd (hword _ hdot) (by decide)⟩

theorem plus_not_mem (h : Release v ns) : '+' ∉ v := by
  have row {row : List Char} (h : Row row ns) : '+' ∉ row := fun hplus =>
    absurd (h.startsTag_eq_false _ hplus) (by decide)
  cases h with
  | plain h => exact row h
  | tagged h hword =>
    rw [List.mem_append, List.mem_cons, not_or, not_or]
    exact ⟨row h, by decide, fun hplus => absurd (hword _ hplus) (by decide)⟩

end Release

/-! ### Components -/

/-- What stands between the separators in front of the tag: numbers, and `none` for every
component that is no numeral of 32 bits. -/
def components (s : List Char) : List (Option UInt32) :=
  (Text.splitBy isSeparator (core s)).map readWord?

/-- The numbers of a row without the `1` of the old notation. -/
def modern : List UInt32 → List UInt32
  | first :: next :: rest => if first = 1 then next :: rest else first :: next :: rest
  | ns => ns

/-- The `1` of the old notation is dropped when it stands first and not alone. -/
theorem modern_eq (ns : List UInt32) :
    modern ns = if ns.head? = some 1 ∧ ns.length ≠ 1 then ns.tail else ns := by
  match ns with
  | [] => simp [modern]
  | [_] => simp [modern]
  | first :: next :: rest => simp [modern]

theorem components_ne_nil (s : List Char) : components s ≠ [] :=
  mt List.map_eq_nil_iff.mp (Text.splitBy_ne_nil _ _)

/-- A text is a version text exactly when all its components are readable. -/
theorem writes_iff : Writes s ns ↔ components s = ns.map some := by
  constructor
  · rintro ⟨row, tag, hrow, htag, hbare⟩
    have hcore : core s = row := by
      rw [← hrow.takeWhile_append htag, ← hbare]
      rfl
    rw [components, hcore, row_iff.mp hrow]
  · intro h
    refine ⟨core s, (bare s).dropWhile fun c => !startsTag c, row_iff.mpr h, ?_,
      List.takeWhile_append_dropWhile.symm⟩
    intro c hc
    have hdrop := List.head?_dropWhile_not (fun c => !startsTag c) (bare s)
    rw [Option.mem_def.mp hc] at hdrop
    simpa using hdrop

theorem known_map_some : known (ns.map some) = ns := by
  induction ns with
  | nil => rfl
  | cons n ns ih => rw [List.map_cons, known, ih]

/-- Where nothing is missing, everything is known. -/
theorem map_some_known {all : List (Option UInt32)} (h : none ∉ all) :
    (known all).map some = all := by
  induction all with
  | nil => rfl
  | cons n rest ih =>
    rw [List.mem_cons, not_or] at h
    cases n with
    | none => exact absurd rfl h.1
    | some n => rw [known, List.map_cons, ih h.2]

/-- Either nothing of a text is read, since its first component is unreadable, or all of it is. -/
def ReadInFull (s : List Char) : Prop :=
  (components s).head? = some none ∨ none ∉ components s

instance (s : List Char) : Decidable (ReadInFull s) :=
  inferInstanceAs (Decidable (_ ∨ _))

/-! ### What is read -/

theorem numbers?_of_components (h : components s = some first :: others) :
    numbers? s = some (modern (first :: known others)) := by
  rw [components] at h
  simp only [numbers?, h]
  cases known others with
  | nil => simp [modern]
  | cons next rest => by_cases hfirst : first = 1 <;> simp [modern, hfirst]

/-- A text is unreadable when its first component is; the others do not matter. -/
theorem numbers?_eq_none_iff : numbers? s = none ↔ (components s).head? = some none := by
  cases h : components s with
  | nil => exact absurd h (components_ne_nil s)
  | cons component others =>
    cases component with
    | none =>
      rw [components] at h
      simp [numbers?, h]
    | some first => simp [numbers?_of_components h]

/-- A version text is read as the numbers that stand in it. -/
theorem Writes.numbers? (h : Writes s ns) : numbers? s = some (modern ns) := by
  obtain ⟨row, tag, hrow, htag, hbare⟩ := h
  have hcomponents := writes_iff.mp ⟨row, tag, hrow, htag, hbare⟩
  cases ns with
  | nil => exact absurd rfl hrow.ne_nil
  | cons n ns => rw [numbers?_of_components hcomponents, known_map_some]

theorem Writes.ofChars? (h : Writes s ns) : ofChars? s = some (ofNumbers (modern ns)) := by
  rw [Version.ofChars?, h.numbers?, Option.map_some]

/-- A text that is read in full is a version text or is not read at all. -/
theorem ReadInFull.writes (h : ReadInFull s) (hread : numbers? s ≠ none) : ∃ ns, Writes s ns := by
  have hall : none ∉ components s := h.resolve_left (mt numbers?_eq_none_iff.mpr hread)
  exact ⟨known (components s), writes_iff.mpr (map_some_known hall).symm⟩

end JavaHomes.Version
