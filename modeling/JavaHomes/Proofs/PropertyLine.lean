import JavaHomes.Launcher.Report
import JavaHomes.Proofs.Lines

/-!
Lines of a property dump, one by one. An indented line declares a property exactly if it has a key,
a sign with white space on both sides, and behind the sign something other than white space. What a
line declares is never empty, neither the key nor the value, and has no white space around it.
-/

namespace JavaHomes.Launcher

open Text (Around Skips Trimmed isBlank)

variable {key value : String} {gap rest line s : List Char}

/-! ### Keys, signs and values -/

/-- A key of one word. -/
def IsWord (key : String) : Prop :=
  key.toList ≠ [] ∧ ∀ c ∈ key.toList, isBlank c = false

/-- A line with a key, the sign, and the rest behind the sign. -/
def IsEntry (key : String) (rest line : List Char) : Prop :=
  ∃ indent gap, (∀ c ∈ indent, isBlank c = true) ∧ (∀ c ∈ gap, isBlank c = true) ∧
    line = indent ++ (key.toList ++ (gap ++ ([' ', '=', ' '] ++ rest)))

/-- An indented line with a value behind the sign. White space around the value does not count. -/
def Declares (key value : String) (line : List Char) : Prop :=
  isIndented line = true ∧ Trimmed value.toList ∧
    ∃ rest, IsEntry key rest line ∧ Around isBlank value.toList rest

/-- No sign begins in white space with more white space behind it. -/
theorem splitOnce_gap (hgap : ∀ c ∈ gap, isBlank c = true) (hs : s.head? = some ' ') :
    Text.splitOnce [' ', '=', ' '] (gap ++ s) =
      (Text.splitOnce [' ', '=', ' '] s).map fun e => (gap ++ e.1, e.2) := by
  induction gap with
  | nil => simp
  | cons c gap ih =>
    obtain ⟨d, more, hnext, hd⟩ : ∃ d more, gap ++ s = d :: more ∧ isBlank d = true := by
      cases gap with
      | nil =>
        obtain ⟨more, rfl⟩ := List.head?_eq_some_iff.mp hs
        exact ⟨' ', more, rfl, rfl⟩
      | cons d gap => exact ⟨d, gap ++ s, rfl, hgap d (by simp)⟩
    -- what stands behind `c` is white space, so the sign does not begin at `c`
    have hsign : '=' ≠ d := by
      rintro rfl
      exact absurd hd (by decide)
    have hprefix : [' ', '=', ' '].isPrefixOf? (c :: d :: more) = none := by
      simp [List.isPrefixOf?, hsign]
    have ih := ih fun e he => hgap e (List.mem_cons_of_mem c he)
    rw [hnext] at ih
    rw [List.cons_append, hnext, Text.splitOnce, hprefix, ih, Option.map_map]
    rfl

/-- A key and the white space behind it are passed on the way to the sign. -/
theorem splitOnce_entry (hkey : IsWord key) (hgap : ∀ c ∈ gap, isBlank c = true)
    (hs : s.head? = some ' ') :
    Text.splitOnce [' ', '=', ' '] (key.toList ++ (gap ++ s)) =
      (Text.splitOnce [' ', '=', ' '] s).map fun e => (key.toList ++ gap ++ e.1, e.2) := by
  have hskips : Skips [' ', '=', ' '] key.toList :=
    Text.skips_of_not_mem fun hblank => absurd (hkey.2 ' ' hblank) (by decide)
  rw [hskips, splitOnce_gap hgap hs, Option.map_map]
  simp [Function.comp_def]

/-- What starts with a key and does not end in white space is trimmed. -/
theorem IsWord.trimmed_append (hkey : IsWord key) (hs : s ≠ [])
    (hlast : ∀ c ∈ s.getLast?, isBlank c = false) : Trimmed (key.toList ++ s) where
  ne_nil := by simp [hs]
  first c hc := by
    rw [List.head?_append_of_ne_nil _ hkey.1] at hc
    exact hkey.2 c (List.mem_of_mem_head? hc)
  last c hc := by
    rw [List.getLast?_append_of_ne_nil _ hs] at hc
    exact hlast c hc

/-- A line with nothing behind the sign declares nothing: the sign needs white space behind it, and
white space at the end of a line does not count. -/
theorem property?_of_blank (hkey : IsWord key) (h : IsEntry key rest line)
    (hrest : ∀ c ∈ rest, isBlank c = true) : property? line = none := by
  obtain ⟨indent, gap, hindent, hgap, rfl⟩ := h
  have htrimmed : Trimmed (key.toList ++ (gap ++ [' ', '='])) := by
    refine hkey.trimmed_append (by simp) fun c hc => ?_
    rw [List.getLast?_append_of_ne_nil _ (by simp)] at hc
    exact Option.some.inj hc ▸ rfl
  -- the white space that ends the sign is trimmed along with the rest
  have htrim : Text.trim (indent ++ (key.toList ++ (gap ++ ([' ', '=', ' '] ++ rest)))) =
      key.toList ++ (gap ++ [' ', '=']) :=
    htrimmed.trim_eq ⟨indent, ' ' :: rest, hindent, List.forall_mem_cons.mpr ⟨rfl, hrest⟩, by simp⟩
  rw [property?, htrim, splitOnce_entry hkey hgap rfl]
  simp [Text.splitOnce, List.isPrefixOf?]

/-- A line with a value behind the sign declares it. -/
theorem Declares.property?_eq (hkey : IsWord key) (h : Declares key value line) :
    property? line = some (key, value) := by
  obtain ⟨hindented, hvalue, rest, ⟨indent, gap, hindent, hgap, rfl⟩,
    before, after, hbefore, hafter, rfl⟩ := h
  have htrimmed :
      Trimmed (key.toList ++ (gap ++ ([' ', '=', ' '] ++ (before ++ value.toList)))) := by
    refine hkey.trimmed_append (by simp) fun c hc => hvalue.last c ?_
    rwa [List.getLast?_append_of_ne_nil _ (by simp), List.getLast?_append_of_ne_nil _
      (by simp [hvalue.ne_nil]), List.getLast?_append_of_ne_nil _ hvalue.ne_nil] at hc
  have htrim : Text.trim (indent ++ (key.toList ++ (gap ++ ([' ', '=', ' '] ++
        (before ++ (value.toList ++ after)))))) =
      key.toList ++ (gap ++ ([' ', '=', ' '] ++ (before ++ value.toList))) :=
    htrimmed.trim_eq ⟨indent, after, hindent, hafter, by simp⟩
  have htrimKey : Text.trim (key.toList ++ gap) = key.toList :=
    Around.trimBy_eq ⟨[], gap, by simp, hgap, by simp⟩ hkey.1 hkey.2
  have htrimValue : Text.trim (before ++ value.toList) = value.toList :=
    hvalue.trim_eq ⟨before, [], hbefore, by simp, by simp⟩
  rw [property?, if_pos hindented, htrim, splitOnce_entry hkey hgap rfl,
    Text.splitOnce_append _ _ (by simp)]
  simp [htrimKey, htrimValue]

/-! ### What a line declares -/

/-- The key is found in front of the sign and the value behind it. Neither side is blank, because
the line was trimmed before the sign was looked for. -/
theorem exists_of_property? (h : property? line = some (key, value)) :
    isIndented line = true ∧ ∃ before after,
      Text.trim line = before ++ ([' ', '=', ' '] ++ after) ∧
      (before ≠ [] ∧ (∀ c ∈ before.head?, isBlank c = false) ∧ Text.trim before = key.toList) ∧
      after ≠ [] ∧ (∀ c ∈ after.getLast?, isBlank c = false) ∧ Text.trim after = value.toList := by
  rw [property?] at h
  split at h
  case isFalse => cases h
  rename_i hindented
  obtain ⟨⟨before, after⟩, hsplit, hpair⟩ := Option.map_eq_some_iff.mp h
  obtain ⟨rfl, rfl⟩ := Prod.mk.inj hpair
  have hline := Text.splitOnce_eq_some hsplit
  have hfirst : ∀ c ∈ (before ++ ([' ', '=', ' '] ++ after)).head?, isBlank c = false :=
    fun c hc => Text.eq_false_of_mem_head?_trimBy (hline ▸ hc)
  have hlast : ∀ c ∈ (before ++ ([' ', '=', ' '] ++ after)).getLast?, isBlank c = false :=
    fun c hc => Text.eq_false_of_mem_getLast?_trimBy (hline ▸ hc)
  have hbefore : before ≠ [] := by
    rintro rfl
    exact absurd (hfirst ' ' rfl) (by decide)
  have hafter : after ≠ [] := by
    rintro rfl
    exact absurd (hlast ' ' (by simp)) (by decide)
  rw [List.head?_append_of_ne_nil _ hbefore] at hfirst
  rw [List.getLast?_append_of_ne_nil _ (by simp), List.getLast?_append_of_ne_nil _ hafter] at hlast
  exact ⟨hindented, before, after, hline, ⟨hbefore, hfirst, String.toList_ofList.symm⟩, hafter,
    hlast, String.toList_ofList.symm⟩

theorem trimmed_of_property? (h : property? line = some (key, value)) :
    Trimmed key.toList ∧ Trimmed value.toList := by
  obtain ⟨-, before, after, -, ⟨hbefore, hfirst, hkey⟩, hafter, hlast, hvalue⟩ :=
    exists_of_property? h
  rw [← hkey, ← hvalue]
  constructor
  · have hhead := List.head?_eq_some_head hbefore
    exact Text.trimmed_trim (List.mem_of_mem_head? hhead) (hfirst _ hhead)
  · have hend := List.getLast?_eq_some_getLast hafter
    exact Text.trimmed_trim (List.mem_of_mem_getLast? hend) (hlast _ hend)

theorem declares_of_property? (h : property? line = some (key, value)) :
    Declares key value line := by
  obtain ⟨hindented, before, after, hline, ⟨-, hfirst, hkey⟩, -, -, hvalue⟩ :=
    exists_of_property? h
  obtain ⟨indent, tail, hindent, htail, hall⟩ := Text.around_trimBy isBlank line
  obtain ⟨gap, hgap, hbefore⟩ := (Text.around_trimBy isBlank before).exists_eq_append hfirst
  have hrest : Around isBlank value.toList (after ++ tail) := by
    rw [← hvalue]
    exact (Text.around_trimBy isBlank after).append htail
  refine ⟨hindented, (trimmed_of_property? h).2, after ++ tail, ⟨indent, gap, hindent, hgap, ?_⟩,
    hrest⟩
  rw [← hkey, ← List.append_assoc _ gap, Text.trim, ← hbefore, ← List.append_assoc _ after,
    ← List.append_assoc _ _ tail, ← hline]
  exact hall

/-- A line declares a value for a word exactly if the word and the value stand around a sign. -/
theorem property?_eq_some_iff (hkey : IsWord key) :
    property? line = some (key, value) ↔ Declares key value line :=
  ⟨declares_of_property?, fun h => h.property?_eq hkey⟩

/-- Key and value of a declaration are part of its line. -/
theorem Declares.mem_line (h : Declares key value line) {c : Char}
    (hc : c ∈ key.toList ∨ c ∈ value.toList) : c ∈ line := by
  obtain ⟨-, -, rest, ⟨indent, gap, -, -, rfl⟩, before, after, -, -, rfl⟩ := h
  rcases hc with hc | hc <;> simp [hc]

/-- Key and value of every property are trimmed, and a line feed is in neither. -/
theorem trimmed_of_mem_properties {output : List Char} (h : (key, value) ∈ properties output) :
    (Trimmed key.toList ∧ '\n' ∉ key.toList) ∧ Trimmed value.toList ∧ '\n' ∉ value.toList := by
  obtain ⟨line, hline, hproperty⟩ := List.mem_filterMap.mp h
  obtain ⟨hkey, hvalue⟩ := trimmed_of_property? hproperty
  have hfeed := (Text.lined_lines output).feed_not_mem line hline
  have hdeclares := declares_of_property? hproperty
  exact ⟨⟨hkey, fun hc => hfeed (hdeclares.mem_line (.inl hc))⟩, hvalue,
    fun hc => hfeed (hdeclares.mem_line (.inr hc))⟩

end JavaHomes.Launcher
