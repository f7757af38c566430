import JavaHomes.Pattern
import JavaHomes.Proofs.PatternSearch

/-!
Every pattern that can be read repeats in bounds, so searching for it finds exactly what it spans.
The reader keeps this of all groups that are open, step by step: only a counted repetition could
break it, and one that asks for more than it allows is refused.
-/

namespace JavaHomes.Pattern

/-! ### Terms -/

/-- No repetition asks for more than it allows. -/
def Term.Bounded : Term → Prop
  | repetition least most a => a.Bounded ∧ ∀ m ∈ most, least ≤ m
  | group _ a => a.Bounded
  | alternation a b | sequence a b => a.Bounded ∧ b.Bounded
  | _ => True

theorem Context.bounded_of_map_enter {x : Context} {set? : Option CharClass}
    {found : Expr × Context} (h : set?.map x.enter = some found) : found.1.Bounded := by
  obtain ⟨set, -, rfl⟩ := Option.map_eq_some_iff.mp h
  trivial

/-- The expression of a term in bounds is in bounds. -/
theorem Term.Bounded.of_meaning? {term : Term} (hterm : term.Bounded) {x : Context}
    {found : Expr × Context} (h : term.meaning? x = some found) : found.1.Bounded := by
  induction term generalizing x found with
  | empty | flags change | anchor kind =>
    cases h
    trivial
  | literal l => exact Context.bounded_of_map_enter h
  | dot => exact Context.bounded_of_map_enter h
  | shorthand kind negated => exact Context.bounded_of_map_enter h
  | property query negated => exact Context.bounded_of_map_enter h
  | set set => exact Context.bounded_of_map_enter h
  | repetition least most a ih =>
    obtain ⟨⟨e, y⟩, ha, h⟩ := Option.bind_eq_some_iff.mp h
    cases h
    exact ⟨ih hterm.1 ha, hterm.2⟩
  | group change a ih =>
    obtain ⟨⟨e, y⟩, ha, h⟩ := Option.bind_eq_some_iff.mp h
    cases h
    have he := ih hterm ha
    exact he
  | alternation a b iha ihb | sequence a b iha ihb =>
    obtain ⟨⟨e, y⟩, ha, h⟩ := Option.bind_eq_some_iff.mp h
    obtain ⟨⟨e', z⟩, hb, h⟩ := Option.bind_eq_some_iff.mp h
    cases h
    exact ⟨iha hterm.1 ha, ihb hterm.2 hb⟩

/-- Things side by side keep what `pair` keeps. -/
theorem Nested.combine_value {α : Type} {P : α → Prop} {none : α} {pair : α → α → α}
    (hnone : P none) (hpair : ∀ a b, P a → P b → P (pair a b)) {all : List (Nested α)}
    (hall : ∀ a ∈ all, P a.value) : P (combine none pair all).value := by
  match all with
  | [] => exact hnone
  | [a] => exact hall a (List.mem_singleton_self a)
  | a :: b :: rest =>
    obtain ⟨ha, hrest⟩ := List.forall_mem_cons.mp hall
    exact List.foldlRecOn (b :: rest) _ ha fun x hx y hy => hpair x y.value hx (hrest y hy)

/-! ### The reader -/

/-- All that has been read in a group is in bounds. -/
structure OpenGroup.Bounded (g : OpenGroup) : Prop where
  alternatives : ∀ a ∈ g.alternatives, a.value.Bounded
  items : ∀ a ∈ g.items, a.value.Bounded

namespace OpenGroup

variable {g : OpenGroup} {item : Nested Term}

theorem Bounded.push (hg : g.Bounded) (hitem : item.value.Bounded) : (g.push item).Bounded :=
  ⟨hg.alternatives, List.forall_mem_cons.mpr ⟨hitem, hg.items⟩⟩

theorem Bounded.sequence (hg : g.Bounded) : g.sequence.value.Bounded :=
  Nested.combine_value trivial (fun _ _ ha hb => ⟨ha, hb⟩) fun a ha =>
    hg.items a (List.mem_reverse.mp ha)

theorem Bounded.all (hg : g.Bounded) : ∀ a ∈ g.sequence :: g.alternatives, a.value.Bounded :=
  List.forall_mem_cons.mpr ⟨hg.sequence, hg.alternatives⟩

theorem Bounded.branch (hg : g.Bounded) : g.branch.Bounded :=
  ⟨hg.all, fun _ ha => absurd ha List.not_mem_nil⟩

theorem Bounded.content (hg : g.Bounded) : g.content.value.Bounded :=
  Nested.combine_value trivial (fun _ _ ha hb => ⟨ha, hb⟩) fun a ha =>
    hg.all a (List.mem_reverse.mp ha)

theorem Bounded.repeatLast? (hg : g.Bounded) {least : Nat} {most : Option Nat}
    (hle : ∀ m ∈ most, least ≤ m) {g' : OpenGroup} (h : g.repeatLast? least most = some g') :
    g'.Bounded := by
  rw [OpenGroup.repeatLast?] at h
  split at h
  · cases h
  · cases h
  · rename_i item before _ hitems
    obtain ⟨hitem, hbefore⟩ := List.forall_mem_cons.mp (hitems ▸ hg.items)
    rw [← Option.some.inj h]
    exact ⟨hg.alternatives, List.forall_mem_cons.mpr ⟨⟨hitem, hle⟩, hbefore⟩⟩

end OpenGroup

/-- All that has been read is in bounds. -/
structure Progress.Bounded (p : Progress) : Prop where
  inner : p.inner.Bounded
  outer : ∀ g ∈ p.outer, g.Bounded

namespace Progress

variable {p q : Progress} {item : Nested Term} {least : Nat} {most : Option Nat} {c : Char}
  {s rest : List Char}

theorem Bounded.push (hp : p.Bounded) (hitem : item.value.Bounded) : (p.push item).Bounded :=
  ⟨hp.inner.push hitem, hp.outer⟩

theorem Bounded.openGroup (hp : p.Bounded) (change : FlagChange) : (p.openGroup change).Bounded :=
  ⟨⟨nofun, nofun⟩, List.forall_mem_cons.mpr ⟨hp.inner, hp.outer⟩⟩

theorem Bounded.closeGroup? (hp : p.Bounded) (h : p.closeGroup? = some q) : q.Bounded := by
  rw [Progress.closeGroup?] at h
  split at h
  · cases h
  · rename_i around outer houter
    obtain ⟨haround, hrest⟩ := List.forall_mem_cons.mp (houter ▸ hp.outer)
    rw [← Option.some.inj h]
    exact ⟨haround.push hp.inner.content, hrest⟩

theorem Bounded.repeatLast? (hp : p.Bounded) (hle : ∀ m ∈ most, least ≤ m)
    (h : ((p.repeatLast? least most).map fun p => (p, s)) = some (q, rest)) : q.Bounded := by
  obtain ⟨_, hq, heq⟩ := Option.map_eq_some_iff.mp h
  cases heq
  obtain ⟨inner, hinner, rfl⟩ := Option.map_eq_some_iff.mp hq
  exact ⟨hp.inner.repeatLast? hle hinner, hp.outer⟩

theorem Bounded.changeFlags? (hp : p.Bounded) {change : FlagChange}
    (h : changeFlags? p change = some q) : q.Bounded := by
  rw [Pattern.changeFlags?] at h
  split at h
  · cases h
  · rw [← Option.some.inj h]
    exact ⟨hp.inner.push trivial, hp.outer⟩

theorem Bounded.openNamed? (hp : p.Bounded) (h : openNamed? p s = some (q, rest)) :
    q.Bounded := by
  obtain ⟨⟨name, rest'⟩, -, h⟩ := Option.bind_eq_some_iff.mp h
  obtain ⟨-, h⟩ := Option.ite_none_left_eq_some.mp h
  cases h
  have hnamed : Progress.Bounded { p with names := name :: p.names } := ⟨hp.inner, hp.outer⟩
  exact hnamed.openGroup []

theorem Bounded.open? (hp : p.Bounded) (h : open? p s = some (q, rest)) : q.Bounded := by
  rw [Pattern.open?] at h
  split at h
  · cases h
  · split at h
    · exact hp.openNamed? h
    · exact hp.openNamed? h
    · split at h
      · obtain ⟨q, hq, heq⟩ := Option.map_eq_some_iff.mp h
        cases heq
        exact hp.changeFlags? hq
      · cases h
        exact hp.openGroup _
      · cases h
    · cases h
      exact hp.openGroup []

end Progress

theorem Element.bounded_toTerm (e : Element) : e.toTerm.Bounded := by
  cases e <;> trivial

theorem closeCount?_bounded {verbose : Bool} {least least' : Nat} {most most' : Option Nat}
    {s rest : List Char} (h : closeCount? verbose least most s = some (least', most', rest)) :
    ∀ m ∈ most', least' ≤ m := by
  unfold closeCount? at h
  split at h
  · split at h
    · cases h
    · rename_i hle
      cases h
      rintro m rfl
      simpa using hle
  · cases h

theorem counted?_bounded {verbose : Bool} {least : Nat} {most : Option Nat} {s rest : List Char}
    (h : counted? verbose s = some (least, most, rest)) : ∀ m ∈ most, least ≤ m := by
  unfold counted? at h
  split at h
  split at h
  · split at h
    · exact closeCount?_bounded h
    · split at h
      · exact closeCount?_bounded h
      · cases h
  · exact closeCount?_bounded h
  · cases h

namespace Progress

theorem Bounded.step? (hp : p.Bounded) (h : step? p c s = some (q, rest)) : q.Bounded := by
  -- the cases are the characters in the order of `step?`; all but repetitions add what is in bounds
  unfold Pattern.step? at h
  split at h
  · exact hp.open? h
  · obtain ⟨q, hq, heq⟩ := Option.map_eq_some_iff.mp h
    cases heq
    exact hp.closeGroup? hq
  · cases h
    exact ⟨hp.inner.branch, hp.outer⟩
  · obtain ⟨⟨set, rest'⟩, -, heq⟩ := Option.map_eq_some_iff.mp h
    cases heq
    exact hp.push trivial
  · exact hp.repeatLast? (by simp) h
  · exact hp.repeatLast? (by simp) h
  · exact hp.repeatLast? (by simp) h
  · obtain ⟨⟨least, most, rest'⟩, hcount, h⟩ := Option.bind_eq_some_iff.mp h
    exact hp.repeatLast? (counted?_bounded hcount) h
  · obtain ⟨⟨e, rest'⟩, -, heq⟩ := Option.map_eq_some_iff.mp h
    cases heq
    exact hp.push (Element.bounded_toTerm e)
  all_goals
    cases h
    exact hp.push trivial

theorem Bounded.steps? {fuel : Nat} (hp : p.Bounded) (h : steps? fuel p s = some q) :
    q.Bounded := by
  induction fuel generalizing p s with
  | zero => cases h
  | succ fuel ih =>
    unfold Pattern.steps? at h
    split at h
    · exact Option.some.inj h ▸ hp
    · split at h
      · rename_i hstep
        exact ih (hp.step? hstep) h
      · cases h

end Progress

theorem Term.bounded_of_ofChars? {s : List Char} {term : Term} (h : ofChars? s = some term) :
    term.Bounded := by
  rw [ofChars?] at h
  split at h
  · rename_i p hp
    obtain ⟨-, h⟩ := Option.ite_none_right_eq_some.mp h
    have hstart : ({} : Progress).Bounded := ⟨⟨nofun, nofun⟩, nofun⟩
    exact Option.some.inj h ▸ (hstart.steps? hp).inner.content
  · cases h

/-- The expression of a pattern that can be read is in bounds. -/
theorem bounded_of_ofString? {s : String} {p : Pattern} (h : ofString? s = some p) :
    p.expr.Bounded := by
  obtain ⟨term, hterm, h⟩ := Option.bind_eq_some_iff.mp h
  obtain ⟨⟨expr, context⟩, hexpr, h⟩ := Option.bind_eq_some_iff.mp h
  obtain ⟨-, h⟩ := Option.ite_none_left_eq_some.mp h
  cases h
  exact (Term.bounded_of_ofChars? hterm).of_meaning? hexpr

/-- A pattern that can be read occurs in exactly those texts that have a part which it spans. -/
theorem occursIn_iff {pattern : String} {p : Pattern} (h : ofString? pattern = some p)
    (s : String) : p.occursIn s = true ↔ ∃ u v rest, s.toList = u ++ (v ++ rest) ∧
      p.expr.Spans p.sets u.getLast? v rest.head? :=
  Expr.matchesIn_iff (bounded_of_ofString? h)

end JavaHomes.Pattern
