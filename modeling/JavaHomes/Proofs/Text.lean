import Mathlib.Data.List.DropRight
import JavaHomes.Text.Blank

/-!
Laws of trimming and cutting. Trimming takes away what stands around a text whose ends are to be
kept; cutting at single characters is the library's way of cutting a list; and a text can be cut at
the first occurrence of a mark by passing the parts in which no occurrence begins.
-/

namespace JavaHomes.Text

variable {p : Char → Bool} {s w rest : List Char} {words : List (List Char)}

/-! ### Trimming -/

/-- Characters of `p` are taken up to the first one that is not. -/
theorem takeWhile_append_cons {c : Char} (hw : ∀ d ∈ w, p d = true) (hc : p c = false) :
    (w ++ c :: s).takeWhile p = w := by
  rw [List.takeWhile_append_of_pos hw, List.takeWhile_cons_of_neg (by simp [hc]), List.append_nil]

/-- When not all is taken, some character stopped it. -/
theorem exists_eq_takeWhile_append (h : (s.takeWhile p).length ≠ s.length) :
    ∃ c rest, p c = false ∧ s = s.takeWhile p ++ c :: rest := by
  obtain ⟨c, rest, hdrop⟩ : ∃ c rest, s.dropWhile p = c :: rest := by
    refine List.exists_cons_of_ne_nil fun hnil => h ?_
    rw [List.takeWhile_eq_self_iff.mpr (List.dropWhile_eq_nil_iff.mp hnil)]
  have hstop := List.head?_dropWhile_not p s
  rw [hdrop] at hstop
  exact ⟨c, rest, hstop, by rw [← hdrop, List.takeWhile_append_dropWhile]⟩

theorem dropTail_prefix (p : Char → Bool) (s : List Char) : dropTail p s <+: s :=
  List.rdropWhile_prefix p s

/-- Nothing in front of a character that is to be kept is dropped. -/
theorem dropTail_append (h : ∀ c ∈ w.getLast?, p c = false) (s : List Char) :
    dropTail p (w ++ s) = w ++ dropTail p s := by
  have hw : w.reverse.dropWhile p = w.reverse := by
    refine List.dropWhile_eq_self_iff.mpr fun hlength => ?_
    rw [Bool.not_eq_true]
    refine h _ (List.head?_reverse ▸ ?_)
    exact List.head?_eq_getElem?.trans (List.getElem?_eq_getElem hlength)
  rw [dropTail, dropTail, List.reverse_append, List.dropWhile_append]
  split
  · rename_i hs
    rw [hw, List.isEmpty_iff.mp hs, List.reverse_reverse, List.reverse_nil, List.append_nil]
  · rw [List.reverse_append, List.reverse_reverse]

/-- The first character that trimming leaves is to be kept. -/
theorem eq_false_of_mem_head?_trimBy {c : Char} (h : c ∈ (trimBy p s).head?) : p c = false := by
  obtain ⟨w, hw⟩ := List.head?_eq_some_iff.mp h
  obtain ⟨rest, hrest⟩ := dropTail_prefix p (s.dropWhile p)
  have hdrop : s.dropWhile p = c :: (w ++ rest) := by rw [← hrest, ← trimBy, hw, List.cons_append]
  have hstop := List.head?_dropWhile_not p s
  rwa [hdrop] at hstop

/-- The last character that trimming leaves is to be kept. -/
theorem eq_false_of_mem_getLast?_trimBy {c : Char} (h : c ∈ (trimBy p s).getLast?) :
    p c = false := by
  rw [trimBy, dropTail, List.getLast?_reverse] at h
  obtain ⟨w, hw⟩ := List.head?_eq_some_iff.mp h
  have hstop := List.head?_dropWhile_not p (s.dropWhile p).reverse
  rwa [hw] at hstop

theorem trimBy_trimBy (p : Char → Bool) (s : List Char) : trimBy p (trimBy p s) = trimBy p s := by
  have hdrop : (trimBy p s).dropWhile p = trimBy p s := by
    refine List.dropWhile_eq_self_iff.mpr fun hlength => ?_
    rw [Bool.not_eq_true]
    exact eq_false_of_mem_head?_trimBy
      (List.head?_eq_getElem?.trans (List.getElem?_eq_getElem hlength))
  rw [trimBy, hdrop]
  exact List.rdropWhile_idempotent p _

/-- Nothing is left exactly of a text whose characters are all dropped. -/
theorem trimBy_eq_nil_iff : trimBy p s = [] ↔ ∀ c ∈ s, p c = true := by
  rw [← List.dropWhile_eq_nil_iff]
  constructor
  · intro hnil
    have hall := List.rdropWhile_eq_nil_iff.mp hnil
    rwa [← List.dropWhile_eq_nil_iff, List.dropWhile_idempotent] at hall
  · intro hdrop
    rw [trimBy, hdrop]
    rfl

theorem isBlankText_trim (s : List Char) : isBlankText (trim s) = isBlankText s := by
  rw [Bool.eq_iff_iff, isBlankText, isBlankText, List.all_eq_true, List.all_eq_true,
    ← trimBy_eq_nil_iff, ← trimBy_eq_nil_iff, trim, trimBy_trimBy]

/-- A text with characters of `p` around it. -/
def Around (p : Char → Bool) (inner s : List Char) : Prop :=
  ∃ before after, (∀ c ∈ before, p c = true) ∧ (∀ c ∈ after, p c = true) ∧
    s = before ++ (inner ++ after)

theorem around_self (p : Char → Bool) (s : List Char) : Around p s s :=
  ⟨[], [], by simp, by simp, by simp⟩

/-- A text is what trimming leaves of it with what is dropped around it. -/
theorem around_trimBy (p : Char → Bool) (s : List Char) : Around p (trimBy p s) s := by
  refine ⟨s.takeWhile p, (s.dropWhile p).rtakeWhile p, fun c hc => List.mem_takeWhile_imp hc,
    fun c hc => List.mem_rtakeWhile_imp hc, ?_⟩
  have htail : trimBy p s ++ (s.dropWhile p).rtakeWhile p = s.dropWhile p :=
    List.rdropWhile_append_rtakeWhile
  rw [htail, List.takeWhile_append_dropWhile]

/-- Nothing stands in front of a text when the whole starts with a character that is to be kept. -/
theorem Around.exists_eq_append (h : Around p w s) (hs : ∀ c ∈ s.head?, p c = false) :
    ∃ after, (∀ c ∈ after, p c = true) ∧ s = w ++ after := by
  obtain ⟨before, after, hbefore, hafter, rfl⟩ := h
  cases before with
  | nil => exact ⟨after, hafter, rfl⟩
  | cons c before =>
    have hkept := hs c rfl
    rw [hbefore c List.mem_cons_self] at hkept
    cases hkept

theorem Around.append {tail : List Char} (h : Around p w s) (htail : ∀ c ∈ tail, p c = true) :
    Around p w (s ++ tail) := by
  obtain ⟨before, after, hbefore, hafter, rfl⟩ := h
  exact ⟨before, after ++ tail, hbefore, List.forall_mem_append.mpr ⟨hafter, htail⟩, by simp⟩

/-- What stands around a text is dropped, up to a part of it that is to be kept. -/
theorem Around.exists_trimBy_eq (h : Around p (w ++ rest) s) (hne : w ≠ [])
    (hw : ∀ c ∈ w, p c = false) : ∃ rest', rest' <+: rest ∧ trimBy p s = w ++ rest' := by
  obtain ⟨before, after, hbefore, hafter, rfl⟩ := h
  refine ⟨dropTail p (rest ++ after), ?_, ?_⟩
  · have hdrop : dropTail p (rest ++ after) = dropTail p rest := by
      rw [dropTail, List.reverse_append, List.dropWhile_append_of_pos, dropTail]
      intro c hc
      exact hafter c (List.mem_reverse.mp hc)
    rw [hdrop]
    exact dropTail_prefix p rest
  · obtain ⟨c, w, rfl⟩ := List.exists_cons_of_ne_nil hne
    have hc : ¬ p c = true := by simp [hw c List.mem_cons_self]
    rw [trimBy, List.dropWhile_append_of_pos hbefore, List.append_assoc, List.cons_append,
      List.dropWhile_cons_of_neg hc, ← List.cons_append,
      dropTail_append fun d hd => hw d (List.mem_of_mem_getLast? hd)]

/-- A text whose ends are to be kept is what trimming leaves of it and of what stands around. -/
theorem Around.trimBy_eq_of_ends (h : Around p w s) (hne : w ≠ [])
    (hfirst : ∀ c ∈ w.head?, p c = false) (hlast : ∀ c ∈ w.getLast?, p c = false) :
    trimBy p s = w := by
  obtain ⟨before, after, hbefore, hafter, rfl⟩ := h
  have htail : dropTail p after = [] := by
    rw [dropTail, List.dropWhile_eq_nil_iff.mpr fun c hc => hafter c (List.mem_reverse.mp hc)]
    rfl
  obtain ⟨c, w, rfl⟩ := List.exists_cons_of_ne_nil hne
  have hc : ¬ p c = true := by simp [hfirst c rfl]
  rw [trimBy, List.dropWhile_append_of_pos hbefore, List.cons_append,
    List.dropWhile_cons_of_neg hc, ← List.cons_append, dropTail_append hlast, htail,
    List.append_nil]

/-- A text without any character of `p` is what trimming leaves of it and of what stands around. -/
theorem Around.trimBy_eq (h : Around p w s) (hne : w ≠ []) (hw : ∀ c ∈ w, p c = false) :
    trimBy p s = w :=
  h.trimBy_eq_of_ends hne (fun c hc => hw c (List.mem_of_mem_head? hc))
    fun c hc => hw c (List.mem_of_mem_getLast? hc)

/-- A text that starts and ends with something other than white space. -/
structure Trimmed (s : List Char) : Prop where
  ne_nil : s ≠ []
  first : ∀ c ∈ s.head?, isBlank c = false
  last : ∀ c ∈ s.getLast?, isBlank c = false

/-- Trimming leaves a trimmed text of every text that is not blank. -/
theorem trimmed_trim {c : Char} (hc : c ∈ s) (hblank : isBlank c = false) : Trimmed (trim s) where
  ne_nil hnil := by
    rw [trimBy_eq_nil_iff.mp hnil c hc] at hblank
    cases hblank
  first _ := eq_false_of_mem_head?_trimBy
  last _ := eq_false_of_mem_getLast?_trimBy

theorem Trimmed.trim_eq (hw : Trimmed w) (h : Around isBlank w s) : trim s = w :=
  h.trimBy_eq_of_ends hw.ne_nil hw.first hw.last

/-- A trimmed text is not blank. -/
theorem Trimmed.isBlankText_eq_false (h : Trimmed s) : isBlankText s = false := by
  obtain ⟨c, rest, rfl⟩ := List.exists_cons_of_ne_nil h.ne_nil
  rw [isBlankText, List.all_cons, h.first c rfl, Bool.false_and]

/-! ### Cutting at single characters -/

/-- Cutting a text is the library's way of cutting a list. -/
theorem splitBy_eq_splitOnP (p : Char → Bool) : ∀ s : List Char, splitBy p s = s.splitOnP p
  | [] => rfl
  | c :: s => by
    rw [splitBy, List.splitOnP_cons_eq_if_modifyHead, splitBy_eq_splitOnP p s]
    cases h : s.splitOnP p with
    | nil => exact absurd h (List.splitOnP_ne_nil p s)
    | cons piece rest => rfl

theorem splitBy_ne_nil (p : Char → Bool) (s : List Char) : splitBy p s ≠ [] :=
  splitBy_eq_splitOnP p s ▸ List.splitOnP_ne_nil p s

theorem splitBy_of_forall (h : ∀ c ∈ s, p c = false) : splitBy p s = [s] := by
  rw [splitBy_eq_splitOnP, List.splitOnP_eq_singleton h]

theorem splitBy_append_cons {c : Char} (hw : ∀ d ∈ w, p d = false) (hc : p c = true) :
    splitBy p (w ++ c :: s) = w :: splitBy p s := by
  rw [splitBy_eq_splitOnP, List.splitOnP_append_cons_of_forall_mem hw c hc, splitBy_eq_splitOnP]

/-- The first piece is what stands in front of the first character of `p`. -/
theorem head?_splitBy (p : Char → Bool) (s : List Char) :
    (splitBy p s).head? = some (s.takeWhile fun c => !p c) := by
  induction s with
  | nil => rfl
  | cons c s ih =>
    rw [splitBy]
    split
    · rename_i hc
      simp [hc]
    · rename_i hc
      cases hs : splitBy p s with
      | nil => exact absurd hs (splitBy_ne_nil p s)
      | cons piece more =>
        rw [hs, List.head?_cons, Option.some.injEq] at ih
        simp [hc, ih]

/-- The first piece is the whole text, or it ends where the rest is cut off. -/
theorem splitBy_eq_cons (h : splitBy p s = w :: words) :
    (words = [] ∧ s = w) ∨ ∃ c s', p c = true ∧ s = w ++ c :: s' ∧ splitBy p s' = words := by
  induction s generalizing w with
  | nil =>
    obtain ⟨rfl, rfl⟩ := List.cons.inj h
    exact .inl ⟨rfl, rfl⟩
  | cons c s ih =>
    rw [splitBy] at h
    split at h
    · rename_i hc
      obtain ⟨rfl, rfl⟩ := List.cons.inj h
      exact .inr ⟨c, s, hc, rfl, rfl⟩
    · cases hs : splitBy p s with
      | nil => exact absurd hs (splitBy_ne_nil p s)
      | cons piece more =>
        rw [hs] at h
        obtain ⟨rfl, rfl⟩ := List.cons.inj h
        rcases ih hs with ⟨hmore, hpiece⟩ | ⟨d, s', hd, hpiece, hs'⟩
        · exact .inl ⟨hmore, by rw [hpiece]⟩
        · exact .inr ⟨d, s', hd, by rw [hpiece, List.cons_append], hs'⟩

/-! ### Cutting at a mark -/

/-- No occurrence of the mark begins in `w`, whatever comes behind it. -/
def Skips (mark w : List Char) : Prop :=
  ∀ rest, splitOnce mark (w ++ rest) = (splitOnce mark rest).map fun e => (w ++ e.1, e.2)

variable {mark : List Char} {m c : Char}

theorem skips_nil (mark : List Char) : Skips mark [] := fun rest => by simp

theorem Skips.append {w' : List Char} (h : Skips mark w) (h' : Skips mark w') :
    Skips mark (w ++ w') := by
  intro rest
  rw [List.append_assoc, h, h', Option.map_map]
  simp [Function.comp_def, List.append_assoc]

/-- A character that the mark does not start with is passed. -/
theorem skips_of_ne (h : m ≠ c) : Skips (m :: mark) [c] := by
  intro rest
  have hprefix : (m :: mark).isPrefixOf? (c :: rest) = none := by simp [List.isPrefixOf?, h]
  rw [List.singleton_append, splitOnce, hprefix]
  rfl

theorem skips_of_not_mem (h : m ∉ w) : Skips (m :: mark) w := by
  induction w with
  | nil => exact skips_nil _
  | cons c w ih =>
    have hne : m ≠ c := fun heq => h (heq ▸ List.mem_cons_self)
    exact (skips_of_ne hne).append (ih fun hw => h (List.mem_cons_of_mem c hw))

/-- The first character of a mark of two is passed when another character stands behind it. -/
theorem Skips.cons_lone (h : Skips [m, m] (c :: w)) (hne : m ≠ c) : Skips [m, m] (m :: c :: w) := by
  intro rest
  have hprefix : [m, m].isPrefixOf? (m :: (c :: w ++ rest)) = none := by
    simp [List.isPrefixOf?, hne]
  rw [List.cons_append, splitOnce, hprefix, h rest]
  simp [Function.comp_def]

theorem splitOnce_append (mark rest : List Char) (hmark : mark ≠ []) :
    splitOnce mark (mark ++ rest) = some ([], rest) := by
  cases mark with
  | nil => exact absurd rfl hmark
  | cons m mark =>
    have hprefix : (m :: mark).isPrefixOf? (m :: mark ++ rest) = some rest :=
      List.isPrefixOf?_eq_some_iff_append_eq.mpr rfl
    rw [List.cons_append] at hprefix ⊢
    rw [splitOnce, hprefix]

/-- Behind parts in which no occurrence begins, the mark is found where it stands. -/
theorem Skips.splitOnce_append (h : Skips mark w) (hmark : mark ≠ []) (rest : List Char) :
    splitOnce mark (w ++ (mark ++ rest)) = some (w, rest) := by
  rw [h, Text.splitOnce_append mark rest hmark]
  simp

theorem Skips.splitOnce_eq_none (h : Skips mark w) (hmark : mark ≠ []) :
    splitOnce mark w = none := by
  have hw := h []
  rw [List.append_nil, splitOnce] at hw
  simpa [hmark] using hw

/-- What stands before the mark, the mark and what stands behind it make up the text. -/
theorem splitOnce_eq_some {before after : List Char}
    (h : splitOnce mark s = some (before, after)) : s = before ++ (mark ++ after) := by
  induction s generalizing before with
  | nil =>
    rw [splitOnce] at h
    split at h
    · rename_i hmark
      obtain ⟨rfl, rfl⟩ := Prod.mk.inj (Option.some.inj h)
      rw [List.isEmpty_iff.mp hmark]
      rfl
    · cases h
  | cons c s ih =>
    rw [splitOnce] at h
    split at h
    · rename_i hprefix
      obtain ⟨rfl, rfl⟩ := Prod.mk.inj (Option.some.inj h)
      exact (List.isPrefixOf?_eq_some_iff_append_eq.mp hprefix).symm
    · obtain ⟨⟨before', after'⟩, hs, heq⟩ := Option.map_eq_some_iff.mp h
      obtain ⟨rfl, rfl⟩ := Prod.mk.inj heq
      rw [ih hs, List.cons_append]

/-- A text is cut at the first of the characters `m` in it. -/
theorem splitOnce_singleton {before after : List Char} :
    splitOnce [m] s = some (before, after) ↔ s = before ++ m :: after ∧ m ∉ before := by
  constructor
  · intro h
    have hs := splitOnce_eq_some h
    refine ⟨hs, fun hmem => ?_⟩
    -- otherwise the text would have been cut further in front
    obtain ⟨u, w, rfl, hu⟩ := List.eq_append_cons_of_mem hmem
    have hskips : Skips [m] u := skips_of_not_mem hu
    have hfirst := hskips.splitOnce_append (List.cons_ne_nil m []) (w ++ m :: after)
    rw [hs, List.append_assoc] at h
    obtain ⟨hbefore, -⟩ := Prod.mk.inj (Option.some.inj (h.symm.trans hfirst))
    simp at hbefore
  · rintro ⟨rfl, hbefore⟩
    exact (skips_of_not_mem hbefore).splitOnce_append (List.cons_ne_nil m []) after

/-- A mark that occurs is found. -/
theorem splitOnce_ne_none (hmark : mark ≠ []) (before after : List Char) :
    splitOnce mark (before ++ (mark ++ after)) ≠ none := by
  induction before with
  | nil => simp [splitOnce_append mark after hmark]
  | cons c before ih =>
    rw [List.cons_append, splitOnce]
    split
    · exact Option.some_ne_none _
    · rwa [Ne, Option.map_eq_none_iff]

/-- A mark is found exactly where it occurs. -/
theorem contains_iff (hmark : mark ≠ []) : contains mark s = true ↔ mark <:+: s := by
  rw [contains, Option.isSome_iff_ne_none]
  constructor
  · intro h
    obtain ⟨⟨before, after⟩, hsplit⟩ := Option.ne_none_iff_exists'.mp h
    exact ⟨before, after, by rw [splitOnce_eq_some hsplit, List.append_assoc]⟩
  · rintro ⟨before, after, rfl⟩
    rw [List.append_assoc]
    exact splitOnce_ne_none hmark before after

end JavaHomes.Text
