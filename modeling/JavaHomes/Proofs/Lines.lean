import JavaHomes.Proofs.Text

/-!
Lines of a text. A line ends with a line feed, perhaps with one carriage return in front of it, and
the last line may lack its ending. Cutting a text undoes every way of writing its lines down, and
texts that are put together have the lines of both when the first one ends its last line.
-/

namespace JavaHomes.Text

variable {l s t : List Char} {ls ms : List (List Char)} {c : Char}

/-- The ways to write lines down. A carriage return at the end of a line that has its own ending
belongs to the ending. -/
inductive Lined : List (List Char) → List Char → Prop
  | nil : Lined [] []
  | last {l : List Char} (hne : l ≠ []) (hl : '\n' ∉ l) : Lined [l] l
  | feed {l s : List Char} {ls : List (List Char)} (hl : '\n' ∉ l) (hlast : l.getLast? ≠ some '\r')
      (h : Lined ls s) : Lined (l :: ls) (l ++ '\n' :: s)
  | returned {l s : List Char} {ls : List (List Char)} (hl : '\n' ∉ l) (h : Lined ls s) :
      Lined (l :: ls) (l ++ '\r' :: '\n' :: s)

/-! ### Cutting -/

/-- A character that ends no line stands in front of the first line. -/
theorem lines_cons (hfeed : c ≠ '\n') (hreturn : ∀ s', c = '\r' → s ≠ '\n' :: s') :
    lines (c :: s) = (c :: (lines s).headD []) :: (lines s).tail := by
  rw [lines]
  · cases lines s <;> rfl
  · exact fun s' hc => hreturn s' hc
  · exact hfeed

theorem lines_ne_nil (h : s ≠ []) : lines s ≠ [] := by
  fun_cases lines s with
  | case1 => exact absurd rfl h
  | case2 s => exact List.cons_ne_nil _ _
  | case3 s => exact List.cons_ne_nil _ _
  | case4 c s _ _ hlines => exact List.cons_ne_nil _ _
  | case5 c s _ _ l ls hlines => exact List.cons_ne_nil _ _

/-- A text without line feeds stands in front of the first line of what follows, unless the cut goes
through a line ending. -/
theorem lines_append (hl : '\n' ∉ l) (hcut : l.getLast? ≠ some '\r' ∨ t.head? ≠ some '\n')
    (hne : l ++ t ≠ []) : lines (l ++ t) = (l ++ (lines t).headD []) :: (lines t).tail := by
  induction l with
  | nil =>
    obtain ⟨m, ms, hlines⟩ := List.exists_cons_of_ne_nil (lines_ne_nil hne)
    rw [List.nil_append] at hlines
    rw [List.nil_append, hlines]
    rfl
  | cons c l ih =>
    rw [List.mem_cons, not_or] at hl
    have hreturn : ∀ s', c = '\r' → l ++ t ≠ '\n' :: s' := by
      rintro s' rfl heq
      cases l with
      | nil =>
        rw [List.nil_append] at heq
        subst heq
        exact hcut.elim (· rfl) (· rfl)
      | cons d l => exact hl.2 ((List.cons.inj heq).1 ▸ List.mem_cons_self)
    rw [List.cons_append, lines_cons (Ne.symm hl.1) hreturn]
    by_cases hlt : l ++ t = []
    · obtain ⟨rfl, rfl⟩ := List.append_eq_nil_iff.mp hlt
      rfl
    · have hcut' : l.getLast? ≠ some '\r' ∨ t.head? ≠ some '\n' :=
        hcut.imp_left fun hlast hl => hlast (by rw [List.getLast?_cons, hl]; rfl)
      rw [ih hl.2 hcut' hlt]
      rfl

theorem lines_of_not_mem (hne : l ≠ []) (hl : '\n' ∉ l) : lines l = [l] := by
  have happend := lines_append (t := []) hl (.inr (by simp)) (by simpa using hne)
  rwa [lines, List.headD_nil, List.append_nil, List.tail_nil] at happend

theorem lines_append_feed (hl : '\n' ∉ l) (hlast : l.getLast? ≠ some '\r') (s : List Char) :
    lines (l ++ '\n' :: s) = l :: lines s := by
  rw [lines_append hl (.inl hlast) (by simp), lines, List.headD_cons, List.append_nil,
    List.tail_cons]

theorem lines_append_return (hl : '\n' ∉ l) (s : List Char) :
    lines (l ++ '\r' :: '\n' :: s) = l :: lines s := by
  rw [lines_append hl (.inr (by simp)) (by simp), lines, List.headD_cons, List.append_nil,
    List.tail_cons]

/-- Cutting finds the lines that were written down. -/
theorem Lined.lines_eq (h : Lined ls s) : lines s = ls := by
  induction h with
  | nil => rw [lines]
  | last hne hl => exact lines_of_not_mem hne hl
  | feed hl hlast _ ih => rw [lines_append_feed hl hlast, ih]
  | returned hl _ ih => rw [lines_append_return hl, ih]

/-- No line has a line feed in it. -/
theorem Lined.feed_not_mem (h : Lined ls s) : ∀ l ∈ ls, '\n' ∉ l := by
  induction h with
  | nil => exact fun l hl => absurd hl List.not_mem_nil
  | last _ hl => exact fun l hmem => List.mem_singleton.mp hmem ▸ hl
  | feed hl _ _ ih => exact List.forall_mem_cons.mpr ⟨hl, ih⟩
  | returned hl _ ih => exact List.forall_mem_cons.mpr ⟨hl, ih⟩

/-- Another character in front of a text belongs to its first line. -/
theorem Lined.cons (h : Lined (l :: ls) s) (hfeed : c ≠ '\n')
    (hreturn : ∀ s', c = '\r' → s ≠ '\n' :: s') : Lined ((c :: l) :: ls) (c :: s) := by
  have hnot {l : List Char} (hl : '\n' ∉ l) : '\n' ∉ c :: l := by
    rw [List.mem_cons, not_or]
    exact ⟨Ne.symm hfeed, hl⟩
  cases h with
  | last hne hl => exact .last (List.cons_ne_nil c l) (hnot hl)
  | feed hl hlast h =>
    refine .feed (hnot hl) (fun hcl => ?_) h
    cases l with
    | nil => exact hreturn _ (Option.some.inj hcl) rfl
    | cons d l => exact hlast hcl
  | returned hl h => exact .returned (hnot hl) h

/-- Every text is its lines, written down in some way. -/
theorem lined_lines (s : List Char) : Lined (lines s) s := by
  fun_induction lines s with
  | case1 => exact .nil
  | case2 s ih => exact .returned (l := []) (by simp) ih
  | case3 s ih => exact .feed (l := []) (by simp) (by simp) ih
  | case4 c s hreturn hfeed hlines ih =>
    rw [hlines] at ih
    cases ih
    exact .last (List.cons_ne_nil c []) (by simpa using Ne.symm hfeed)
  | case5 c s hreturn hfeed l ls hlines ih =>
    rw [hlines] at ih
    exact ih.cons hfeed hreturn

theorem lined_iff : Lined ls s ↔ lines s = ls :=
  ⟨Lined.lines_eq, fun h => h ▸ lined_lines s⟩

/-! ### Putting texts together -/

/-- Nothing, or a text whose last line has its ending. -/
def Closed (s : List Char) : Prop :=
  ∀ c ∈ s.getLast?, c = '\n'

/-- Behind closed lines the lines of another text follow. -/
theorem Lined.append (h : Lined ls s) (hclosed : Closed s) (h' : Lined ms t) :
    Lined (ls ++ ms) (s ++ t) := by
  have hrest {l s : List Char} (hclosed : Closed (l ++ '\n' :: s)) : Closed s := by
    intro c hc
    refine hclosed c ?_
    cases s with
    | nil => cases hc
    | cons d s => simpa using hc
  induction h with
  | nil => exact h'
  | @last l hne hl =>
    have hlast : l.getLast hne = '\n' := hclosed _ (List.getLast?_eq_some_getLast hne)
    exact absurd (hlast ▸ List.getLast_mem hne) hl
  | feed hl hlast _ ih =>
    rw [List.append_assoc, List.cons_append, List.cons_append]
    exact .feed hl hlast (ih (hrest hclosed))
  | @returned l s ls hl _ ih =>
    rw [List.append_assoc, List.cons_append, List.cons_append, List.cons_append]
    refine .returned hl (ih (hrest (l := l ++ ['\r']) ?_))
    rwa [List.append_assoc]

theorem lines_append_of_closed (h : Closed s) (t : List Char) :
    lines (s ++ t) = lines s ++ lines t :=
  ((lined_lines s).append h (lined_lines t)).lines_eq

end JavaHomes.Text
