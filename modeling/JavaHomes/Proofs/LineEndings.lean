import JavaHomes.Proofs.Decimal
import JavaHomes.Proofs.Lines

/-!
Line endings do not matter where a text is searched, trimmed or cut without regard to them. A text
can be brought to one form, in which a line feed alone ends each line; two texts with the same lines
have the same form up to the ending of the last line.
-/

namespace JavaHomes.Text

variable {p : Char → Bool} {s t x y w mark : List Char} {ls : List (List Char)} {c : Char}

/-- The text with line feeds alone as line endings. -/
def feedsOnly : List Char → List Char
  | '\r' :: '\n' :: s => '\n' :: feedsOnly s
  | c :: s => c :: feedsOnly s
  | [] => []

/-- Lines with a line feed behind each. -/
def closeLines (ls : List (List Char)) : List Char :=
  ls.flatMap fun l => l ++ ['\n']

/-! ### The form -/

theorem feedsOnly_cons (h : ∀ s', c = '\r' → s ≠ '\n' :: s') :
    feedsOnly (c :: s) = c :: feedsOnly s := by
  rw [feedsOnly]
  exact fun s' hc => h s' hc

/-- The same holds of the front part of a text. -/
theorem feedsOnly_cons_of_prefix (h : ∀ s', c = '\r' → s ≠ '\n' :: s') (hw : w <+: s) :
    feedsOnly (c :: w) = c :: feedsOnly w := by
  obtain ⟨rest, rfl⟩ := hw
  refine feedsOnly_cons fun w' hc hw => h (w' ++ rest) hc ?_
  rw [hw, List.cons_append]

/-- Two parts may be treated on their own unless the cut goes through a line ending. -/
theorem feedsOnly_append (h : s.getLast? ≠ some '\r' ∨ t.head? ≠ some '\n') :
    feedsOnly (s ++ t) = feedsOnly s ++ feedsOnly t := by
  fun_induction feedsOnly s with
  | case1 s ih =>
    have hs : s.getLast? ≠ some '\r' ∨ t.head? ≠ some '\n' := h.imp_left fun hlast hs =>
      hlast (by rw [List.getLast?_cons, List.getLast?_cons, hs]; rfl)
    rw [List.cons_append, List.cons_append, feedsOnly, ih hs, List.cons_append]
  | case2 c s hreturn ih =>
    have hs : s.getLast? ≠ some '\r' ∨ t.head? ≠ some '\n' := h.imp_left fun hlast hs =>
      hlast (by rw [List.getLast?_cons, hs]; rfl)
    have hreturn' : ∀ s', c = '\r' → s ++ t ≠ '\n' :: s' := by
      rintro s' rfl heq
      cases s with
      | nil =>
        rw [List.nil_append] at heq
        rcases h with h | h
        · exact h rfl
        · exact h (heq ▸ rfl)
      | cons d s => exact hreturn s rfl (by rw [(List.cons.inj heq).1])
    rw [List.cons_append, feedsOnly_cons hreturn', ih hs, List.cons_append]
  | case3 => rfl

theorem feedsOnly_of_not_mem (h : '\n' ∉ s) : feedsOnly s = s := by
  induction s with
  | nil => rfl
  | cons c s ih =>
    rw [List.mem_cons, not_or] at h
    have hreturn : ∀ s', c = '\r' → s ≠ '\n' :: s' := by
      rintro s' - rfl
      exact h.2 List.mem_cons_self
    rw [feedsOnly_cons hreturn, ih h.2]

/-- Nothing is changed where no line ends. -/
theorem feedsOnly_eq_of_not_mem (h : feedsOnly s = w) (hw : '\n' ∉ w) : s = w := by
  have hs : '\n' ∉ s := by
    subst h
    fun_induction feedsOnly s with
    | case1 s ih => exact absurd List.mem_cons_self hw
    | case2 c s _ ih =>
      rw [List.mem_cons, not_or] at hw ⊢
      exact ⟨hw.1, ih hw.2⟩
    | case3 => exact hw
  rw [← h, feedsOnly_of_not_mem hs]

theorem mem_of_mem_feedsOnly (h : c ∈ feedsOnly s) : c ∈ s := by
  fun_induction feedsOnly s with
  | case1 s ih =>
    rcases List.mem_cons.mp h with rfl | h
    · exact List.mem_cons_of_mem _ List.mem_cons_self
    · exact List.mem_cons_of_mem _ (List.mem_cons_of_mem _ (ih h))
  | case2 d s _ ih =>
    rcases List.mem_cons.mp h with rfl | h
    · exact List.mem_cons_self
    · exact List.mem_cons_of_mem _ (ih h)
  | case3 => cases h

theorem mem_feedsOnly (hc : c ≠ '\r') (h : c ∈ s) : c ∈ feedsOnly s := by
  fun_induction feedsOnly s with
  | case1 s ih =>
    rcases List.mem_cons.mp h with rfl | h
    · exact absurd rfl hc
    rcases List.mem_cons.mp h with rfl | h
    · exact List.mem_cons_self
    · exact List.mem_cons_of_mem _ (ih h)
  | case2 d s _ ih =>
    rcases List.mem_cons.mp h with rfl | h
    · exact List.mem_cons_self
    · exact List.mem_cons_of_mem _ (ih h)
  | case3 => cases h

theorem feedsOnly_eq_nil_iff : feedsOnly s = [] ↔ s = [] := by
  fun_cases feedsOnly s <;> simp

/-- Every cut of the form is a cut of the text. -/
theorem exists_append_of_feedsOnly (h : feedsOnly s = x ++ y) :
    ∃ x' y', s = x' ++ y' ∧ feedsOnly x' = x ∧ feedsOnly y' = y := by
  induction x generalizing s with
  | nil => exact ⟨[], s, rfl, rfl, h⟩
  | cons d x ih =>
    fun_cases feedsOnly s with
    | case1 s =>
      obtain ⟨rfl, htail⟩ := List.cons.inj h
      obtain ⟨x', y', rfl, rfl, rfl⟩ := ih htail
      exact ⟨'\r' :: '\n' :: x', y', rfl, rfl, rfl⟩
    | case2 c s hreturn =>
      rw [feedsOnly_cons hreturn] at h
      obtain ⟨rfl, htail⟩ := List.cons.inj h
      obtain ⟨x', y', rfl, rfl, rfl⟩ := ih htail
      exact ⟨c :: x', y', rfl, feedsOnly_cons_of_prefix hreturn (List.prefix_append x' y'), rfl⟩
    | case3 => cases h

theorem closeLines_cons (l : List Char) (ls : List (List Char)) :
    closeLines (l :: ls) = l ++ '\n' :: closeLines ls := by
  rw [closeLines, List.flatMap_cons, List.append_assoc]
  rfl

/-- What was written down for some lines has the form of these lines, perhaps without the last
ending. -/
theorem Lined.closeLines_eq (h : Lined ls s) :
    closeLines ls = feedsOnly s ∨ closeLines ls = feedsOnly s ++ ['\n'] := by
  induction h with
  | nil => exact .inl rfl
  | last hne hl =>
    rw [feedsOnly_of_not_mem hl, closeLines_cons]
    exact .inr rfl
  | @feed l s ls hl hlast _ ih =>
    have hform : feedsOnly (l ++ '\n' :: s) = l ++ '\n' :: feedsOnly s := by
      rw [feedsOnly_append (.inl hlast), feedsOnly_of_not_mem hl, feedsOnly_cons (by simp)]
    rw [hform, closeLines_cons, List.append_assoc, List.cons_append]
    exact ih.imp (fun ih => by rw [ih]) fun ih => by rw [ih]
  | @returned l s ls hl _ ih =>
    have hform : feedsOnly (l ++ '\r' :: '\n' :: s) = l ++ '\n' :: feedsOnly s := by
      rw [feedsOnly_append (.inr (by simp)), feedsOnly_of_not_mem hl, feedsOnly]
    rw [hform, closeLines_cons, List.append_assoc, List.cons_append]
    exact ih.imp (fun ih => by rw [ih]) fun ih => by rw [ih]

/-- What depends neither on the form of line endings nor on the last one depends on the lines
alone. -/
theorem eq_of_lines_eq {α : Type} {f : List Char → α} (hform : ∀ s, f (feedsOnly s) = f s)
    (hlast : ∀ s, f (s ++ ['\n']) = f s) (h : lines s = lines t) : f s = f t := by
  have hclosed : ∀ s, f (closeLines (lines s)) = f s := by
    intro s
    rcases (lined_lines s).closeLines_eq with heq | heq
    · rw [heq, hform]
    · rw [heq, hlast, hform]
  rw [← hclosed s, h, hclosed t]

/-! ### Trimming and cutting -/

theorem dropWhile_feedsOnly (hp : p '\r' = p '\n') (s : List Char) :
    (feedsOnly s).dropWhile p = feedsOnly (s.dropWhile p) := by
  fun_induction feedsOnly s with
  | case1 s ih =>
    rw [List.dropWhile_cons, List.dropWhile_cons, hp]
    split
    · rename_i hdrop
      rw [ih, List.dropWhile_cons_of_pos hdrop]
    · rw [feedsOnly]
  | case2 c s hreturn ih =>
    rw [List.dropWhile_cons, List.dropWhile_cons]
    split
    · exact ih
    · rw [feedsOnly_cons hreturn]
  | case3 => rfl

theorem takeWhile_feedsOnly (hp : p '\r' = p '\n') (s : List Char) :
    (feedsOnly s).takeWhile p = feedsOnly (s.takeWhile p) := by
  fun_induction feedsOnly s with
  | case1 s ih =>
    rw [List.takeWhile_cons, List.takeWhile_cons, hp]
    split
    · rename_i hkeep
      rw [ih, List.takeWhile_cons_of_pos hkeep, feedsOnly]
    · rfl
  | case2 c s hreturn ih =>
    rw [List.takeWhile_cons, List.takeWhile_cons]
    split
    · rw [ih, feedsOnly_cons_of_prefix hreturn (List.takeWhile_prefix p)]
    · rfl
  | case3 => rfl

theorem getLast?_feedsOnly (s : List Char) : (feedsOnly s).getLast? = s.getLast? := by
  fun_induction feedsOnly s with
  | case1 s ih => rw [List.getLast?_cons, List.getLast?_cons, List.getLast?_cons, ih]; rfl
  | case2 c s _ ih => rw [List.getLast?_cons, List.getLast?_cons, ih]
  | case3 => rfl

theorem dropTail_feedsOnly (hp : p '\r' = p '\n') (s : List Char) :
    dropTail p (feedsOnly s) = feedsOnly (dropTail p s) := by
  have hsplit : dropTail p s ++ s.rtakeWhile p = s := List.rdropWhile_append_rtakeWhile
  have hdropped : ∀ c ∈ s.rtakeWhile p, p c = true := fun c hc => List.mem_rtakeWhile_imp hc
  have hkept : ∀ c ∈ (dropTail p s).getLast?, p c = false := by
    intro c hc
    obtain ⟨hne, rfl⟩ := List.mem_getLast?_eq_getLast hc
    exact eq_false_of_ne_true (List.rdropWhile_last_not p s hne)
  have hcut : (dropTail p s).getLast? ≠ some '\r' ∨ (s.rtakeWhile p).head? ≠ some '\n' := by
    by_contra! hcut
    have hfeed := hdropped '\n' (List.mem_of_mem_head? hcut.2)
    rw [← hp, hkept '\r' hcut.1] at hfeed
    cases hfeed
  have hrest : dropTail p (feedsOnly (s.rtakeWhile p)) = [] :=
    List.rdropWhile_eq_nil_iff.mpr fun c hc => hdropped c (mem_of_mem_feedsOnly hc)
  have hkept' : ∀ c ∈ (feedsOnly (dropTail p s)).getLast?, p c = false := by
    rwa [getLast?_feedsOnly]
  conv_lhs => rw [← hsplit, feedsOnly_append hcut, dropTail_append hkept', hrest, List.append_nil]

theorem trimBy_feedsOnly (hp : p '\r' = p '\n') (s : List Char) :
    trimBy p (feedsOnly s) = feedsOnly (trimBy p s) := by
  rw [trimBy, dropWhile_feedsOnly hp, dropTail_feedsOnly hp, trimBy]

/-- A cut at characters that end no line does not depend on line endings. -/
theorem splitBy_feedsOnly (hfeed : p '\n' = false) (hreturn : p '\r' = false) (s : List Char) :
    splitBy p (feedsOnly s) = (splitBy p s).map feedsOnly := by
  have hcons {c : Char} {s : List Char} (hc : p c = false) :
      splitBy p (c :: s) = (splitBy p s).modifyHead (c :: ·) := by
    rw [splitBy_eq_splitOnP, List.splitOnP_cons_eq_if_modifyHead, if_neg (by simp [hc]),
      splitBy_eq_splitOnP]
  fun_induction feedsOnly s with
  | case1 s ih =>
    rw [hcons hfeed, hcons hreturn, hcons hfeed, ih]
    cases splitBy p s <;> rfl
  | case2 c s hending ih =>
    cases hc : p c with
    | true => rw [splitBy, if_pos hc, splitBy, if_pos hc, ih]; rfl
    | false =>
      rw [hcons hc, hcons hc, ih]
      have hhead := head?_splitBy p s
      cases hsplit : splitBy p s with
      | nil => exact absurd hsplit (splitBy_ne_nil p s)
      | cons piece rest =>
        rw [hsplit] at hhead
        obtain rfl := Option.some.inj hhead
        rw [List.map_cons, List.modifyHead_cons, List.modifyHead_cons, List.map_cons,
          feedsOnly_cons_of_prefix hending (List.takeWhile_prefix _)]
  | case3 => rfl

/-- A numeral has no line ending, and a text with one is no numeral. -/
theorem readWord?_feedsOnly (w : List Char) :
    Decimal.readWord? (feedsOnly w) = Decimal.readWord? w := by
  have hdigits {w : List Char} {n : UInt32} (h : Decimal.Denotes w n) : '\n' ∉ w :=
    fun hfeed => absurd (h.digits _ hfeed) (by decide)
  ext n
  rw [Decimal.readWord?_eq_some, Decimal.readWord?_eq_some]
  constructor
  · intro h
    rwa [← feedsOnly_eq_of_not_mem rfl (hdigits h)] at h
  · intro h
    rwa [feedsOnly_of_not_mem (hdigits h)]

/-! ### Searching -/

/-- A mark without line endings occurs wherever the text has its line endings. -/
theorem infix_feedsOnly_iff (hne : mark ≠ []) (hfeed : '\n' ∉ mark) (hreturn : '\r' ∉ mark) :
    mark <:+: feedsOnly s ↔ mark <:+: s := by
  constructor
  · rintro ⟨before, after, h⟩
    obtain ⟨x, after', rfl, hx, rfl⟩ := exists_append_of_feedsOnly h.symm
    obtain ⟨before', mark', rfl, rfl, hmark⟩ := exists_append_of_feedsOnly hx
    obtain rfl := feedsOnly_eq_of_not_mem hmark hfeed
    exact ⟨before', after', rfl⟩
  · rintro ⟨before, after, rfl⟩
    have hfirst : (mark ++ after).head? ≠ some '\n' := fun hc => hfeed <|
      List.mem_of_mem_head? (by rwa [List.head?_append_of_ne_nil mark hne] at hc)
    have hlast : mark.getLast? ≠ some '\r' := fun hc => hreturn (List.mem_of_mem_getLast? hc)
    rw [List.append_assoc, feedsOnly_append (.inr hfirst), feedsOnly_append (.inl hlast),
      feedsOnly_of_not_mem hfeed, ← List.append_assoc]
    exact List.infix_append _ mark _

/-- A last line ending makes no occurrence. -/
theorem infix_append_feed_iff (hne : mark ≠ []) (hfeed : '\n' ∉ mark) :
    mark <:+: s ++ ['\n'] ↔ mark <:+: s := by
  rw [List.infix_concat_iff, List.suffix_concat_iff]
  refine or_iff_right ?_
  rintro (rfl | ⟨front, rfl, -⟩)
  · exact hne rfl
  · exact hfeed (by simp)

end JavaHomes.Text
