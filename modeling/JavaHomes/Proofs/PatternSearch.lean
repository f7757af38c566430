import Mathlib.Data.List.Dedup
import JavaHomes.Pattern.Expr
import JavaHomes.Proofs.Lists

/-!
What a search finds. An expression spans a part of a text, seen with the characters on both sides of
it; this says what matching means without a word about how a search goes about it. An expression
spans a part that begins with `c` exactly when one of its derivatives spans the rest, so the search,
which takes derivatives character by character, finds exactly the texts with a part that is spanned.
-/

namespace JavaHomes.Pattern

namespace Expr

variable {sets : Array CharClass} {a b e : Expr} {before after : Option Char} {c : Char}
  {s w : List Char} {n least : Nat} {most : Option Nat} {live : List Expr}

/-- Parts of a text with the characters on both sides. -/
abbrev Part := Option Char → List Char → Option Char → Prop

/-- A part that is made of `n` parts, one behind the other. -/
def Repeats (P : Part) : Nat → Part
  | 0, _, w, _ => w = []
  | n + 1, before, w, after =>
    ∃ u v, w = u ++ v ∧ P before u (v.head?.or after) ∧
      Repeats P n (u.getLast?.or before) v after

/-- Whether a set of the table has a character. -/
def InSet (sets : Array CharClass) (index : Nat) (c : Char) : Prop :=
  sets[index]?.any (·.contains c.toNat) = true

/-- The parts of a text that an expression matches. -/
def Spans (sets : Array CharClass) : Expr → Part
  | empty, _, w, _ => w = []
  | set index, _, w, _ => ∃ c, w = [c] ∧ InSet sets index c
  | look kind, before, w, after => w = [] ∧ kind.holds ⟨before, after⟩ = true
  | seq a b, before, w, after =>
    ∃ u v, w = u ++ v ∧ a.Spans sets before u (v.head?.or after) ∧
      b.Spans sets (u.getLast?.or before) v after
  | alt a b, before, w, after => a.Spans sets before w after ∨ b.Spans sets before w after
  | times a least most, before, w, after =>
    ∃ n, least ≤ n ∧ (∀ m ∈ most, n ≤ m) ∧ Repeats (a.Spans sets) n before w after

/-- No repetition asks for more than it allows. -/
def Bounded : Expr → Prop
  | empty | set _ | look _ => True
  | seq a b | alt a b => a.Bounded ∧ b.Bounded
  | times a least most => a.Bounded ∧ ∀ m ∈ most, least ≤ m

/-! ### Parts without characters -/

theorem repeats_nil {P : Part} :
    Repeats P n before [] after ↔ n = 0 ∨ P before [] after := by
  induction n with
  | zero => simp [Repeats]
  | succ n ih =>
    simp only [Repeats, List.nil_eq, List.append_eq_nil_iff, exists_and_left, and_assoc,
      exists_eq_left, List.head?_nil, Option.none_or, List.getLast?_nil, ih]
    tauto

/-- An expression spans the part without characters exactly where it accepts it. -/
theorem spans_nil (he : e.Bounded) :
    e.Spans sets before [] after ↔ e.acceptsEmpty ⟨before, after⟩ = true := by
  induction e with
  | empty => simp [Spans, acceptsEmpty]
  | set index => simp [Spans, acceptsEmpty]
  | look kind => simp [Spans, acceptsEmpty]
  | seq a b iha ihb =>
    rw [acceptsEmpty, Bool.and_eq_true, ← iha he.1, ← ihb he.2]
    constructor
    · rintro ⟨u, v, hw, ha, hb⟩
      obtain ⟨rfl, rfl⟩ := List.append_eq_nil_iff.mp hw.symm
      exact ⟨ha, hb⟩
    · rintro ⟨ha, hb⟩
      exact ⟨[], [], rfl, ha, hb⟩
  | alt a b iha ihb => rw [acceptsEmpty, Bool.or_eq_true, ← iha he.1, ← ihb he.2, Spans]
  | times a least most ih =>
    simp only [Spans, acceptsEmpty, Bool.or_eq_true, beq_iff_eq, repeats_nil, ih he.1]
    constructor
    · rintro ⟨n, hleast, -, hzero | ha⟩
      · exact .inl (by omega)
      · exact .inr ha
    · rintro (rfl | ha)
      · exact ⟨0, Nat.le_refl 0, fun _ _ => Nat.zero_le _, .inl rfl⟩
      · exact ⟨least, Nat.le_refl least, he.2, .inr ha⟩

/-! ### Parts that begin with a character -/

theorem spans_andThen : (andThen b a).Spans sets before w after ↔
    (seq a b).Spans sets before w after := by
  cases a with
  | empty =>
    constructor
    · intro hb
      exact ⟨[], w, rfl, rfl, hb⟩
    · rintro ⟨u, v, rfl, rfl, hb⟩
      exact hb
  | _ => rfl

/-- In a part that begins with `c`, either the first of two pieces begins with it, or it has no
characters at all and the second one does. -/
theorem exists_append_eq_cons {P Q : List Char → List Char → Prop} :
    (∃ u v, c :: w = u ++ v ∧ P u v ∧ Q u v) ↔
      (P [] (c :: w) ∧ Q [] (c :: w)) ∨
        ∃ u v, w = u ++ v ∧ P (c :: u) v ∧ Q (c :: u) v := by
  constructor
  · rintro ⟨_ | ⟨d, u⟩, v, hw, hP, hQ⟩
    · obtain rfl : c :: w = v := hw
      exact .inl ⟨hP, hQ⟩
    · obtain ⟨rfl, rfl⟩ := List.cons.inj hw
      exact .inr ⟨u, v, rfl, hP, hQ⟩
  · rintro (⟨hP, hQ⟩ | ⟨u, v, rfl, hP, hQ⟩)
    · exact ⟨[], c :: w, rfl, hP, hQ⟩
    · exact ⟨c :: u, v, rfl, hP, hQ⟩

theorem spans_seq_cons : (seq a b).Spans sets before (c :: w) after ↔
    (a.Spans sets before [] (some c) ∧ b.Spans sets before (c :: w) after) ∨
      ∃ u v, w = u ++ v ∧ a.Spans sets before (c :: u) (v.head?.or after) ∧
        b.Spans sets (u.getLast?.or (some c)) v after := by
  rw [Spans, exists_append_eq_cons]
  simp only [Lists.getLast?_cons_or]
  rfl

/-- The first character of repeated parts stands in one of them, all in front of it being without
characters. -/
theorem repeats_cons {P : Part} : Repeats P n before (c :: w) after ↔
    ∃ m < n, (m + 1 = n ∨ P before [] (some c)) ∧ ∃ u v, w = u ++ v ∧
      P before (c :: u) (v.head?.or after) ∧ Repeats P m (u.getLast?.or (some c)) v after := by
  induction n with
  | zero => simp [Repeats]
  | succ n ih =>
    rw [Repeats, exists_append_eq_cons]
    simp only [Lists.getLast?_cons_or]
    -- the first of the parts has no characters, or it begins with `c`
    constructor
    · rintro (⟨hempty, hrest⟩ | hfirst)
      · obtain ⟨m, hm, -, hparts⟩ := ih.mp hrest
        exact ⟨m, by omega, .inr hempty, hparts⟩
      · exact ⟨n, by omega, .inl rfl, hfirst⟩
    · rintro ⟨m, hm, hskip, hparts⟩
      rcases Nat.lt_succ_iff_lt_or_eq.mp hm with hlt | rfl
      · have hempty : P before [] (some c) := hskip.resolve_left (by omega)
        exact .inl ⟨hempty, ih.mpr ⟨m, hlt, .inr hempty, hparts⟩⟩
      · exact .inr hparts

/-- A repetition spans a part that begins with `c` when the expression spans a first piece of it and
further repetitions span the rest: enough of them, unless it can be repeated without characters. -/
theorem spans_times_cons (hbound : ∀ k ∈ most, least ≤ k) :
    (times a least most).Spans sets before (c :: w) after ↔
      ∃ m, (a.Spans sets before [] (some c) ∨ least ≤ m + 1) ∧ (∀ k ∈ most, m + 1 ≤ k) ∧
        ∃ u v, w = u ++ v ∧ a.Spans sets before (c :: u) (v.head?.or after) ∧
          Repeats (a.Spans sets) m (u.getLast?.or (some c)) v after := by
  simp only [Spans, repeats_cons]
  constructor
  · rintro ⟨n, hleast, hmost, m, hm, hskip, hparts⟩
    refine ⟨m, ?_, fun k hk => Nat.le_trans hm (hmost k hk), hparts⟩
    rcases hskip with rfl | hempty
    · exact .inr hleast
    · exact .inl hempty
  · rintro ⟨m, howed, hmost, hparts⟩
    rcases howed with hempty | hleast
    -- repetitions without characters in front make up for those that are owed
    · refine ⟨max (m + 1) least, by omega, fun k hk => ?_, m, by omega, .inr hempty, hparts⟩
      exact Nat.max_le.mpr ⟨hmost k hk, hbound k hk⟩
    · exact ⟨m + 1, hleast, hmost, m, by omega, .inl rfl, hparts⟩

theorem mem_derivatives_times {place : Place} {d : Expr} :
    d ∈ (times a least most).derivatives sets place c ↔ most ≠ some 0 ∧
      ∃ d' ∈ a.derivatives sets place c,
        andThen (times a (if a.acceptsEmpty place then 0 else least - 1) (most.map (· - 1))) d' =
          d := by
  rw [derivatives]
  by_cases hzero : most = some 0
  · simp [hzero]
  · simp [hzero]

/-- The repetitions that are still owed behind the first character, and how many there may be. -/
theorem owed_iff {m : Nat} (accepts : Bool) :
    (accepts = true ∨ least ≤ m + 1) ∧ (∀ k ∈ most, m + 1 ≤ k) ↔
      most ≠ some 0 ∧ (if accepts then 0 else least - 1) ≤ m ∧
        ∀ k ∈ most.map (· - 1), m ≤ k := by
  cases accepts <;> cases most <;> simp <;> omega

/-- What an expression spans that begins with `c` is what one of its derivatives spans behind it. -/
theorem spans_cons (he : e.Bounded) : e.Spans sets before (c :: w) after ↔
    ∃ d ∈ e.derivatives sets ⟨before, some c⟩ c, d.Spans sets (some c) w after := by
  induction e generalizing before w after with
  | empty => simp [Spans, derivatives]
  | look kind => simp [Spans, derivatives]
  | set index =>
    simp only [Spans, derivatives, List.cons.injEq, InSet]
    constructor
    · rintro ⟨d, ⟨rfl, rfl⟩, hset⟩
      exact ⟨empty, by rw [if_pos hset]; exact List.mem_singleton_self empty, rfl⟩
    · rintro ⟨d, hd, hspans⟩
      split at hd
      · rename_i hset
        rw [List.mem_singleton.mp hd] at hspans
        exact ⟨c, ⟨rfl, hspans⟩, hset⟩
      · cases hd
  | seq a b iha ihb =>
    rw [spans_seq_cons, spans_nil he.1, ihb he.2, or_comm]
    simp only [derivatives, List.mem_append, List.mem_map, List.mem_ite_nil_right, or_and_right,
      exists_or, exists_exists_and_eq_and, spans_andThen, and_assoc, exists_and_left]
    refine or_congr ?_ Iff.rfl
    constructor
    · rintro ⟨u, v, rfl, ha, hb⟩
      obtain ⟨d, hd, hspans⟩ := (iha he.1).mp ha
      exact ⟨d, hd, u, v, rfl, hspans, hb⟩
    · rintro ⟨d, hd, u, v, rfl, hspans, hb⟩
      exact ⟨u, v, rfl, (iha he.1).mpr ⟨d, hd, hspans⟩, hb⟩
  | alt a b iha ihb =>
    simp only [Spans, derivatives, iha he.1, ihb he.2, List.mem_append, or_and_right, exists_or]
  | times a least most ih =>
    rw [spans_times_cons he.2, spans_nil he.1]
    constructor
    · rintro ⟨m, howed, hmost, u, v, rfl, ha, hrest⟩
      obtain ⟨d, hd, hspans⟩ := (ih he.1).mp ha
      obtain ⟨hne, howed, hmost⟩ := (owed_iff _).mp ⟨howed, hmost⟩
      exact ⟨_, mem_derivatives_times.mpr ⟨hne, d, hd, rfl⟩,
        spans_andThen.mpr ⟨u, v, rfl, hspans, m, howed, hmost, hrest⟩⟩
    · rintro ⟨_, hmem, hspans⟩
      obtain ⟨hne, d, hd, rfl⟩ := mem_derivatives_times.mp hmem
      obtain ⟨u, v, rfl, hspans, m, howed, hmost, hrest⟩ := spans_andThen.mp hspans
      obtain ⟨howed, hmost⟩ := (owed_iff _).mpr ⟨hne, howed, hmost⟩
      exact ⟨m, howed, hmost, u, v, rfl, (ih he.1).mpr ⟨d, hd, hspans⟩, hrest⟩

theorem bounded_andThen (ha : a.Bounded) (hb : b.Bounded) : (andThen b a).Bounded := by
  cases a with
  | empty => exact hb
  | _ => exact ⟨ha, hb⟩

theorem Bounded.of_mem_derivatives {place : Place} {d : Expr} (he : e.Bounded)
    (h : d ∈ e.derivatives sets place c) : d.Bounded := by
  induction e generalizing d with
  | empty => cases h
  | look kind => cases h
  | set index =>
    rw [derivatives, List.mem_ite_nil_right] at h
    rw [List.mem_singleton.mp h.2]
    trivial
  | seq a b iha ihb =>
    rw [derivatives, List.mem_append, List.mem_map, List.mem_ite_nil_right] at h
    rcases h with ⟨d, hd, rfl⟩ | ⟨-, hd⟩
    · exact bounded_andThen (iha he.1 hd) he.2
    · exact ihb he.2 hd
  | alt a b iha ihb =>
    rcases List.mem_append.mp h with hd | hd
    · exact iha he.1 hd
    · exact ihb he.2 hd
  | times a least most ih =>
    obtain ⟨-, d, hd, rfl⟩ := mem_derivatives_times.mp h
    refine bounded_andThen (ih he.1 hd) ⟨he.1, ?_⟩
    intro k hk
    obtain ⟨l, hl, rfl⟩ := Option.map_eq_some_iff.mp hk
    have hle := he.2 l hl
    split <;> omega

/-! ### Searching -/

/-- Some part of the text is spanned from its beginning on. -/
def SpansFront (sets : Array CharClass) (e : Expr) (before : Option Char) (s : List Char) : Prop :=
  ∃ v rest, s = v ++ rest ∧ e.Spans sets before v rest.head?

theorem spansFront_nil (he : e.Bounded) :
    e.SpansFront sets before [] ↔ e.acceptsEmpty ⟨before, none⟩ = true := by
  have hnil : e.Spans sets before [] none ↔ e.acceptsEmpty ⟨before, none⟩ = true := spans_nil he
  rw [← hnil]
  constructor
  · rintro ⟨v, rest, hs, hspans⟩
    obtain ⟨rfl, rfl⟩ := List.append_eq_nil_iff.mp hs.symm
    exact hspans
  · intro hspans
    exact ⟨[], [], rfl, hspans⟩

theorem spansFront_cons (he : e.Bounded) :
    e.SpansFront sets before (c :: s) ↔ e.acceptsEmpty ⟨before, some c⟩ = true ∨
      ∃ d ∈ e.derivatives sets ⟨before, some c⟩ c, d.SpansFront sets (some c) s := by
  have hnil : e.Spans sets before [] (some c) ↔ e.acceptsEmpty ⟨before, some c⟩ = true :=
    spans_nil he
  rw [← hnil]
  constructor
  · rintro ⟨_ | ⟨d, v⟩, rest, hs, hspans⟩
    · obtain rfl : c :: s = rest := hs
      exact .inl hspans
    · obtain ⟨rfl, rfl⟩ := List.cons.inj hs
      obtain ⟨d, hd, hspans⟩ := (spans_cons he).mp hspans
      exact .inr ⟨d, hd, v, rest, rfl, hspans⟩
  · rintro (hspans | ⟨d, hd, v, rest, rfl, hspans⟩)
    · exact ⟨[], c :: s, rfl, hspans⟩
    · exact ⟨c :: v, rest, rfl, (spans_cons he).mpr ⟨d, hd, hspans⟩⟩

/-- Some part of the text that begins later or right away is spanned. -/
def SpansLater (sets : Array CharClass) (e : Expr) (before : Option Char) (s : List Char) : Prop :=
  ∃ u v, s = u ++ v ∧ e.SpansFront sets (u.getLast?.or before) v

theorem spansLater_nil : e.SpansLater sets before [] ↔ e.SpansFront sets before [] := by
  constructor
  · rintro ⟨u, v, hs, hspans⟩
    obtain ⟨rfl, rfl⟩ := List.append_eq_nil_iff.mp hs.symm
    exact hspans
  · intro hspans
    exact ⟨[], [], rfl, hspans⟩

theorem spansLater_cons : e.SpansLater sets before (c :: s) ↔
    e.SpansFront sets before (c :: s) ∨ e.SpansLater sets (some c) s := by
  constructor
  · rintro ⟨_ | ⟨d, u⟩, v, hs, hspans⟩
    · obtain rfl : c :: s = v := hs
      exact .inl hspans
    · obtain ⟨rfl, rfl⟩ := List.cons.inj hs
      rw [Lists.getLast?_cons_or] at hspans
      exact .inr ⟨u, v, rfl, hspans⟩
  · rintro (hspans | ⟨u, v, rfl, hspans⟩)
    · exact ⟨[], c :: s, rfl, hspans⟩
    · rw [← Lists.getLast?_cons_or c u before] at hspans
      exact ⟨c :: u, v, rfl, hspans⟩

/-- A search finds what one of the live expressions spans from here on, and what the expression to
be found spans from here or any later place on. -/
theorem search_iff {start : Expr} (hstart : start.Bounded) (hlive : ∀ d ∈ live, d.Bounded) :
    search sets start before live s = true ↔
      (∃ d ∈ live, d.SpansFront sets before s) ∨ start.SpansLater sets before s := by
  induction s generalizing before live with
  | nil =>
    have hall : ∀ d ∈ start :: live, d.Bounded := List.forall_mem_cons.mpr ⟨hstart, hlive⟩
    have hfront : ∀ d ∈ start :: live,
        (d.SpansFront sets before [] ↔ d.acceptsEmpty ⟨before, none⟩ = true) :=
      fun d hd => spansFront_nil (hall d hd)
    rw [search, List.any_eq_true, spansLater_nil,
      ← exists_congr fun d => and_congr_right (hfront d), List.exists_mem_cons_iff, or_comm]
  | cons c s ih =>
    have hall : ∀ d ∈ start :: live, d.Bounded := List.forall_mem_cons.mpr ⟨hstart, hlive⟩
    have hnext : ∀ d ∈ ((start :: live).flatMap (derivatives sets ⟨before, some c⟩ c)).eraseDups,
        d.Bounded := by
      intro d hd
      obtain ⟨e, he, hd⟩ := List.mem_flatMap.mp (List.mem_eraseDups.mp hd)
      exact (hall e he).of_mem_derivatives hd
    -- whatever is spanned from here on ends right here or goes on as a derivative behind `c`
    have hfront : (∃ d ∈ start :: live, d.SpansFront sets before (c :: s)) ↔
        (∃ d ∈ start :: live, d.acceptsEmpty ⟨before, some c⟩ = true) ∨
          ∃ d ∈ ((start :: live).flatMap (derivatives sets ⟨before, some c⟩ c)).eraseDups,
            d.SpansFront sets (some c) s := by
      simp only [List.mem_eraseDups, List.mem_flatMap, ← exists_or]
      constructor
      · rintro ⟨e, he, hspans⟩
        rcases (spansFront_cons (hall e he)).mp hspans with hempty | ⟨d, hd, hspans⟩
        · exact ⟨e, .inl ⟨he, hempty⟩⟩
        · exact ⟨d, .inr ⟨⟨e, he, hd⟩, hspans⟩⟩
      · rintro ⟨d, ⟨hd, hempty⟩ | ⟨⟨e, he, hd⟩, hspans⟩⟩
        · exact ⟨d, hd, (spansFront_cons (hall d hd)).mpr (.inl hempty)⟩
        · exact ⟨e, he, (spansFront_cons (hall e he)).mpr (.inr ⟨d, hd, hspans⟩)⟩
    rw [search, Bool.or_eq_true, List.any_eq_true, ih hnext, ← or_assoc, ← hfront,
      List.exists_mem_cons_iff, spansLater_cons, ← or_assoc]
    exact or_congr_left or_comm

/-- A search succeeds exactly when some part of the text is spanned. -/
theorem matchesIn_iff (he : e.Bounded) :
    e.matchesIn sets s = true ↔ ∃ u v rest, s = u ++ (v ++ rest) ∧
      e.Spans sets u.getLast? v rest.head? := by
  rw [matchesIn, search_iff he (by simp)]
  constructor
  · rintro (⟨d, hd, -⟩ | ⟨u, -, rfl, v, rest, rfl, hspans⟩)
    · cases hd
    · rw [Option.or_none] at hspans
      exact ⟨u, v, rest, rfl, hspans⟩
  · rintro ⟨u, v, rest, rfl, hspans⟩
    exact .inr ⟨u, v ++ rest, rfl, v, rest, rfl, by rwa [Option.or_none]⟩

/-- An expression between both ends of the text has to span all of it. -/
theorem spans_anchored :
    (∃ u v rest, s = u ++ (v ++ rest) ∧
      (seq (seq (look .textStart) a) (look .textEnd)).Spans sets u.getLast? v rest.head?) ↔
      a.Spans sets none s none := by
  simp only [Spans, Look.holds, Option.isNone_iff_eq_none]
  constructor
  · rintro ⟨u, v, rest, rfl, _, _, rfl, ⟨_, w, rfl, ⟨rfl, hstart⟩, hspans⟩, rfl, hend⟩
    obtain rfl := List.getLast?_eq_none_iff.mp hstart
    obtain rfl := List.head?_eq_none_iff.mp hend
    simpa using hspans
  · intro hspans
    exact ⟨[], s, [], by simp, s, [], by simp, ⟨[], s, rfl, ⟨rfl, rfl⟩, hspans⟩, rfl, rfl⟩

/-! ### Common expressions -/

theorem repeats_set {index : Nat} :
    Repeats ((set index).Spans sets) n before w after ↔
      w.length = n ∧ ∀ c ∈ w, InSet sets index c := by
  induction n generalizing before w with
  | zero =>
    rw [Repeats, List.length_eq_zero_iff]
    exact ⟨fun h => ⟨h, by simp [h]⟩, And.left⟩
  | succ n ih =>
    simp only [Repeats, ih]
    constructor
    · rintro ⟨_, v, rfl, ⟨c, rfl, hc⟩, rfl, hv⟩
      exact ⟨rfl, List.forall_mem_cons.mpr ⟨hc, hv⟩⟩
    · rintro ⟨hlength, hall⟩
      obtain ⟨c, v, rfl⟩ := List.exists_cons_of_length_eq_add_one hlength
      obtain ⟨hc, hv⟩ := List.forall_mem_cons.mp hall
      exact ⟨[c], v, rfl, ⟨c, rfl, hc⟩, Nat.succ.inj hlength, hv⟩

/-- One or more characters of a set. -/
theorem spans_oneOrMore {index : Nat} :
    (times (set index) 1 none).Spans sets before w after ↔
      w ≠ [] ∧ ∀ c ∈ w, InSet sets index c := by
  rw [Spans, ← List.length_pos_iff]
  simp only [repeats_set]
  constructor
  · rintro ⟨n, hn, -, rfl, hall⟩
    exact ⟨hn, hall⟩
  · rintro ⟨hn, hall⟩
    exact ⟨w.length, hn, nofun, rfl, hall⟩

theorem spans_optional :
    (times a 0 (some 1)).Spans sets before w after ↔ w = [] ∨ a.Spans sets before w after := by
  rw [Spans]
  constructor
  · rintro ⟨_ | n, -, hn, hparts⟩
    · exact .inl hparts
    · obtain rfl : n = 0 := by simpa using hn 1 rfl
      obtain ⟨u, v, rfl, hu, rfl⟩ := hparts
      exact .inr (by simpa using hu)
  · rintro (rfl | hw)
    · exact ⟨0, Nat.le_refl 0, by simp, rfl⟩
    · exact ⟨1, by simp, by simp, w, [], by simp, hw, rfl⟩

/-- The sets from one number on, `count` of them behind it, in a row. -/
def row (first : Nat) : (count : Nat) → Expr
  | 0 => set first
  | count + 1 => seq (row first count) (set (first + (count + 1)))

/-- From a number on, the table holds the characters of a text. -/
def Spells (sets : Array CharClass) (first : Nat) (text : List Char) : Prop :=
  text.map .single <+: sets.toList.drop first

theorem inSet_iff_eq {first : Nat} {text rest : List Char} {d : Char}
    (h : Spells sets first (text ++ d :: rest)) :
    InSet sets (first + text.length) c ↔ c = d := by
  obtain ⟨behind, hsets⟩ := h
  have hget : sets[first + text.length]? = some (.single d) := by
    rw [← Array.getElem?_toList, ← List.getElem?_drop, ← hsets]
    simp
  rw [InSet, hget, Option.any_some, CharClass.single, CharClass.contains, Bool.and_eq_true,
    decide_eq_true_eq, decide_eq_true_eq, ← Nat.le_antisymm_iff, eq_comm, Char.toNat_inj]

/-- A row of single characters spans the text that they spell. -/
theorem spans_row {first : Nat} {text : List Char} (h : Spells sets first text)
    (hlength : text.length = n + 1) :
    (row first n).Spans sets before w after ↔ w = text := by
  induction n generalizing w after text with
  | zero =>
    obtain ⟨d, rfl⟩ := List.length_eq_one_iff.mp hlength
    have hspells : Spells sets first ([] ++ [d]) := h
    have hin : ∀ c, InSet sets first c ↔ c = d := fun c => inSet_iff_eq hspells
    simp only [row, Spans, hin, exists_eq_right]
  | succ n ih =>
    rcases List.eq_nil_or_concat text with rfl | ⟨front, d, rfl⟩
    · cases hlength
    · rw [List.concat_eq_append] at h hlength ⊢
      have hfront : front.length = n + 1 := by simpa using hlength
      have hspells : Spells sets first front := by
        rw [Spells, List.map_append] at h
        exact (List.prefix_append ..).trans h
      have hin : ∀ c, InSet sets (first + (n + 1)) c ↔ c = d := fun c => hfront ▸ inSet_iff_eq h
      simp only [row, Spans, ih hspells hfront, hin, exists_eq_right]
      constructor
      · rintro ⟨_, _, rfl, rfl, rfl⟩
        rfl
      · rintro rfl
        exact ⟨front, [d], rfl, rfl, rfl⟩

end Expr

end JavaHomes.Pattern
