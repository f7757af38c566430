import JavaHomes.Config.Environment
import JavaHomes.Proofs.BoundedPatterns
import JavaHomes.Proofs.Lists
import JavaHomes.Proofs.Properties

/-!
The hints that an environment gives. The pattern for their names is taken apart once, so that a name
is a hint exactly when it is written in one of five ways; for each such name the last value that is
not blank counts, and no other names get in.
-/

namespace JavaHomes.Config

open Pattern Pattern.Expr

/-! ### Names -/

/-- One or more decimal digits, of any script. -/
def Digits (s : List Char) : Prop :=
  s ≠ [] ∧ ∀ c ∈ s, Unicode.isDecimalDigit c = true

/-- One or more capital letters and digits of ASCII. -/
def Capitals (s : List Char) : Prop :=
  s ≠ [] ∧ ∀ c ∈ s, ('A' ≤ c ∧ c ≤ 'Z') ∨ ('0' ≤ c ∧ c ≤ '9')

/-- The names of variables that conventionally name a home. -/
inductive HintName : List Char → Prop
  | home : HintName "JAVA_HOME".toList
  | jdk {digits : List Char} : Digits digits → HintName ("JDK".toList ++ digits)
  | jdkHome {digits : List Char} : Digits digits →
      HintName ("JDK".toList ++ digits ++ "_HOME".toList)
  | numbered {digits : List Char} : Digits digits → HintName ("JAVA_HOME_".toList ++ digits)
  | architecture {digits architecture : List Char} : Digits digits → Capitals architecture →
      HintName ("JAVA_HOME_".toList ++ digits ++ ('_' :: architecture))

/-- The sets of the pattern for names, in the order in which it mentions them. -/
def hintSets : List CharClass :=
  "JAVA_HOME".toList.map .single ++
    ("JDK".toList.map .single ++ .categories [.decimalNumber] :: "_HOME".toList.map .single) ++
    ("JAVA_HOME_".toList.map .single ++ [.categories [.decimalNumber], .single '_',
      .union (.range 65 90) (.range 48 57)])

/-- A word and digits, perhaps with something else behind them. -/
def numberedExpr (first count mark : Nat) (rest : Expr) : Expr :=
  seq (seq (row first count) (times (set mark) 1 none)) (times rest 0 (some 1))

/-- What stands between both ends of the pattern. -/
def hintExpr : Expr :=
  alt (alt (row 0 8) (numberedExpr 9 2 12 (row 13 4)))
    (numberedExpr 18 9 28 (seq (set 29) (times (set 30) 1 none)))

theorem ofString?_hintPattern :
    Pattern.ofString? "^(JAVA_HOME|JDK\\d+(_HOME)?|JAVA_HOME_\\d+(_[A-Z0-9]+)?)$" =
      some hintPattern :=
  (Option.some_get _).symm

theorem hintPattern_eq : hintPattern =
    ⟨hintSets.toArray, seq (seq (look .textStart) hintExpr) (look .textEnd)⟩ := by
  rfl

variable {before after : Option Char} {w : List Char}

theorem inSet_digits {index : Nat}
    (h : hintSets.toArray[index]? = some (.categories [.decimalNumber])) (c : Char) :
    InSet hintSets.toArray index c ↔ Unicode.isDecimalDigit c = true := by
  rw [InSet, h, Option.any_some, CharClass.contains, List.contains_cons, List.contains_nil,
    Bool.or_false, Unicode.isDecimalDigit, Unicode.Category.ofChar]

theorem inSet_capitals (c : Char) :
    InSet hintSets.toArray 30 c ↔ ('A' ≤ c ∧ c ≤ 'Z') ∨ ('0' ≤ c ∧ c ≤ '9') := by
  have hset : hintSets.toArray[30]? = some (.union (.range 65 90) (.range 48 57)) := rfl
  rw [InSet, hset, Option.any_some]
  simp only [CharClass.contains, Bool.or_eq_true, Bool.and_eq_true, decide_eq_true_eq]
  rfl

theorem spans_digits {index : Nat}
    (h : hintSets.toArray[index]? = some (.categories [.decimalNumber])) :
    (times (set index) 1 none).Spans hintSets.toArray before w after ↔ Digits w := by
  rw [spans_oneOrMore]
  exact and_congr_right' (forall₂_congr fun c _ => inSet_digits h c)

theorem spans_capitals :
    (times (set 30) 1 none).Spans hintSets.toArray before w after ↔ Capitals w := by
  rw [spans_oneOrMore]
  exact and_congr_right' (forall₂_congr fun c _ => inSet_capitals c)

theorem spans_numberedExpr {first count mark : Nat} {rest : Expr} {front : List Char}
    (hfront : Spells hintSets.toArray first front) (hlength : front.length = count + 1)
    (hmark : hintSets.toArray[mark]? = some (.categories [.decimalNumber])) :
    (numberedExpr first count mark rest).Spans hintSets.toArray before w after ↔
      ∃ digits, Digits digits ∧ (w = front ++ digits ∨ ∃ v, w = front ++ digits ++ v ∧
        rest.Spans hintSets.toArray ((front ++ digits).getLast?.or before) v after) := by
  constructor
  · rintro ⟨_, v, rfl, ⟨_, digits, rfl, hspans, hdigits⟩, hrest⟩
    obtain rfl := (spans_row hfront hlength).mp hspans
    refine ⟨digits, (spans_digits hmark).mp hdigits, ?_⟩
    rcases spans_optional.mp hrest with rfl | hrest
    · exact .inl (List.append_nil _)
    · exact .inr ⟨v, rfl, hrest⟩
  · rintro ⟨digits, hdigits, rfl | ⟨v, rfl, hrest⟩⟩
    · exact ⟨_, [], (List.append_nil _).symm, ⟨_, _, rfl, (spans_row hfront hlength).mpr rfl,
        (spans_digits hmark).mpr hdigits⟩, spans_optional.mpr (.inl rfl)⟩
    · exact ⟨_, v, rfl, ⟨_, _, rfl, (spans_row hfront hlength).mpr rfl,
        (spans_digits hmark).mpr hdigits⟩, spans_optional.mpr (.inr hrest)⟩

theorem spans_architecture :
    (seq (set 29) (times (set 30) 1 none)).Spans hintSets.toArray before w after ↔
      ∃ architecture, Capitals architecture ∧ w = '_' :: architecture := by
  have hmark : Spells hintSets.toArray 29 ['_'] := ⟨_, rfl⟩
  constructor
  · rintro ⟨u, architecture, rfl, hu, harchitecture⟩
    obtain rfl : u = ['_'] := (spans_row hmark rfl).mp hu
    exact ⟨architecture, spans_capitals.mp harchitecture, rfl⟩
  · rintro ⟨architecture, harchitecture, rfl⟩
    exact ⟨['_'], architecture, rfl, (spans_row hmark rfl).mpr rfl,
      spans_capitals.mpr harchitecture⟩

theorem spans_hintExpr : hintExpr.Spans hintSets.toArray before w after ↔ HintName w := by
  have hhome : Spells hintSets.toArray 0 "JAVA_HOME".toList := ⟨_, rfl⟩
  have hjdk : Spells hintSets.toArray 9 "JDK".toList := ⟨_, rfl⟩
  have hbehind : Spells hintSets.toArray 13 "_HOME".toList := ⟨_, rfl⟩
  have hnumbered : Spells hintSets.toArray 18 "JAVA_HOME_".toList := ⟨_, rfl⟩
  constructor
  · rintro ((hw | hw) | hw)
    · rw [(spans_row hhome rfl).mp hw]
      exact .home
    · obtain ⟨digits, hdigits, rfl | ⟨v, rfl, hv⟩⟩ := (spans_numberedExpr hjdk rfl rfl).mp hw
      · exact .jdk hdigits
      · rw [(spans_row hbehind rfl).mp hv]
        exact .jdkHome hdigits
    · obtain ⟨digits, hdigits, rfl | ⟨v, rfl, hv⟩⟩ := (spans_numberedExpr hnumbered rfl rfl).mp hw
      · exact .numbered hdigits
      · obtain ⟨architecture, harchitecture, rfl⟩ := spans_architecture.mp hv
        exact .architecture hdigits harchitecture
  · rintro (_ | hdigits | hdigits | hdigits | ⟨hdigits, harchitecture⟩)
    · exact .inl (.inl ((spans_row hhome rfl).mpr rfl))
    · exact .inl (.inr ((spans_numberedExpr hjdk rfl rfl).mpr ⟨_, hdigits, .inl rfl⟩))
    · exact .inl (.inr ((spans_numberedExpr hjdk rfl rfl).mpr
        ⟨_, hdigits, .inr ⟨_, rfl, (spans_row hbehind rfl).mpr rfl⟩⟩))
    · exact .inr ((spans_numberedExpr hnumbered rfl rfl).mpr ⟨_, hdigits, .inl rfl⟩)
    · exact .inr ((spans_numberedExpr hnumbered rfl rfl).mpr
        ⟨_, hdigits, .inr ⟨_, rfl, spans_architecture.mpr ⟨_, harchitecture, rfl⟩⟩⟩)

/-- The pattern accepts exactly the names. -/
theorem isHintName_iff {name : String} : isHintName name = true ↔ HintName name.toList := by
  rw [isHintName, Pattern.occursIn_iff ofString?_hintPattern, hintPattern_eq, spans_anchored,
    spans_hintExpr]

/-! ### Hints -/

variable {assignments earlier later : List (String × String)} {name value : String} {path : Path}

theorem hint?_eq_some {v : String × String} {e : String × Path} : hint? v = some e ↔
    HintName v.1.toList ∧ Text.isBlankText v.2.toList = false ∧
      (v.1, ⟨Text.trimString v.2⟩) = e := by
  rw [hint?, ← isHintName_iff]
  split
  · rename_i hname
    simp [hname, notBlank?_eq_some, and_assoc]
  · rename_i hname
    simp [hname]

/-- The name conventionally names a home, and some variable of that name is not blank. -/
def Given (assignments : List (String × String)) (name : String) : Prop :=
  HintName name.toList ∧
    ∃ value, (name, value) ∈ assignments ∧ Text.isBlankText value.toList = false

theorem forall_ne_of_not_given (h : ¬ Given assignments name) :
    ∀ e ∈ assignments.filterMap hint?, e.1 ≠ name := by
  rintro e he rfl
  obtain ⟨⟨name, value⟩, hmem, hhint⟩ := List.mem_filterMap.mp he
  obtain ⟨hname, hvalue, rfl⟩ := hint?_eq_some.mp hhint
  exact h ⟨hname, value, hmem, hvalue⟩

theorem given_of_get?_hintsOf (h : Sorted.get? name (hintsOf assignments) = some path) :
    Given assignments name := by
  by_contra hnot
  -- without an entry of its own the name has the value that it had in the empty map
  have hnone := Sorted.get?_putAll_of_forall_ne [] (forall_ne_of_not_given hnot)
  cases h.symm.trans hnone

theorem get?_hintsOf_of_last (hname : HintName name.toList)
    (hvalue : Text.isBlankText value.toList = false)
    (hlast : ∀ v, (name, v) ∈ later → Text.isBlankText v.toList = true) :
    Sorted.get? name (hintsOf (earlier ++ (name, value) :: later)) =
      some ⟨Text.trimString value⟩ := by
  have hhint : hint? (name, value) = some (name, ⟨Text.trimString value⟩) :=
    hint?_eq_some.mpr ⟨hname, hvalue, rfl⟩
  have hentries : (earlier ++ (name, value) :: later).filterMap hint? =
      earlier.filterMap hint? ++ (name, ⟨Text.trimString value⟩) :: later.filterMap hint? := by
    rw [List.filterMap_append, List.filterMap_cons_some hhint]
  have hrest : ¬ Given later name := fun ⟨_, v, hv, hnot⟩ =>
    absurd (hlast v hv) (hnot ▸ Bool.false_ne_true)
  rw [hintsOf, hentries]
  exact Sorted.get?_putAll_of_last _ _ (forall_ne_of_not_given hrest)

theorem ascending_hintsOf (assignments : List (String × String)) :
    Sorted.Ascending (fun a b => compare a.1 b.1) (hintsOf assignments) :=
  Sorted.ascending_putAll .nil

theorem Given.exists_last (h : Given assignments name) : ∃ earlier value later,
    assignments = earlier ++ (name, value) :: later ∧ Text.isBlankText value.toList = false ∧
      ∀ v, (name, v) ∈ later → Text.isBlankText v.toList = true := by
  obtain ⟨-, value, hmem, hvalue⟩ := h
  obtain ⟨earlier, ⟨key, last⟩, later, rfl, hlast, hlater⟩ :=
    Lists.exists_last (p := fun a => a.1 == name && !Text.isBlankText a.2.toList)
      ⟨_, hmem, by simp [hvalue]⟩
  simp only [Bool.and_eq_true, beq_iff_eq, Bool.not_eq_true'] at hlast
  obtain ⟨rfl, hlast⟩ := hlast
  refine ⟨earlier, last, later, rfl, hlast, fun v hv => ?_⟩
  simpa using hlater _ hv

/-- The hints of some variables: each name once, and exactly the names of the right form that are
given a value that is not blank; it is the last such value that counts. -/
theorem hintsOf_exact (assignments : List (String × String)) :
    Sorted.Ascending (fun a b => compare a.1 b.1) (hintsOf assignments) ∧
    (∀ name, (∃ path, (name, path) ∈ hintsOf assignments) ↔
      HintName name.toList ∧
        ∃ value, (name, value) ∈ assignments ∧ Text.isBlankText value.toList = false) ∧
    ∀ name path, (name, path) ∈ hintsOf assignments ↔
      HintName name.toList ∧ ∃ earlier value later,
        assignments = earlier ++ (name, value) :: later ∧
        Text.isBlankText value.toList = false ∧ path = ⟨Text.trimString value⟩ ∧
        ∀ v, (name, v) ∈ later → Text.isBlankText v.toList = true := by
  have hmem : ∀ name path, (name, path) ∈ hintsOf assignments ↔
      Sorted.get? name (hintsOf assignments) = some path :=
    fun _ _ => (ascending_hintsOf assignments).mem_iff_get?
  refine ⟨ascending_hintsOf assignments, fun name => ?_, fun name path => ?_⟩
  · simp only [hmem]
    constructor
    · rintro ⟨path, hpath⟩
      exact given_of_get?_hintsOf hpath
    · intro hgiven
      obtain ⟨earlier, value, later, rfl, hvalue, hlater⟩ := Given.exists_last hgiven
      exact ⟨_, get?_hintsOf_of_last hgiven.1 hvalue hlater⟩
  · rw [hmem]
    constructor
    · intro hpath
      have hgiven := given_of_get?_hintsOf hpath
      obtain ⟨earlier, value, later, rfl, hvalue, hlater⟩ := hgiven.exists_last
      rw [get?_hintsOf_of_last hgiven.1 hvalue hlater, Option.some.injEq] at hpath
      exact ⟨hgiven.1, earlier, value, later, rfl, hvalue, hpath.symm, hlater⟩
    · rintro ⟨hname, earlier, value, later, rfl, hvalue, rfl, hlater⟩
      exact get?_hintsOf_of_last hname hvalue hlater

end JavaHomes.Config
