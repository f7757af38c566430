import JavaHomes.FileTree.Basic

/-!
How a path leads to a place, as rules. A walk ends at a place exactly when the rules lead there.
From the rules one reads that a path may be cut anywhere, and that links to spare do no harm.
-/

namespace JavaHomes

namespace FileTree

variable {t : FileTree} {links left : Nat} {place last : Location} {piece : String}
  {pieces xs ys : List String}

/-- A piece of a path that is looked up as a name in a directory. -/
structure LooksUp (t : FileTree) (place : Location) (piece : String) : Prop where
  free : t.hindrance? place piece = none
  nonempty : piece ≠ ""
  not_dot : piece ≠ "."
  not_dots : piece ≠ ".."
  short : piece.utf8ByteSize ≤ nameLimit
  no_zero : '\x00' ∉ piece.toList

/-- The rules of a walk: with `links` links to pass, the pieces lead from one place to another, and
`left` links are left. -/
inductive Walks (t : FileTree) : (links : Nat) → Location → List String → (left : Nat) → Location →
    Prop
  | done {links : Nat} {place : Location} : Walks t links place [] links place
  | stay {links left : Nat} {place last : Location} {piece : String} {rest : List String} :
      t.hindrance? place piece = none → piece = "" ∨ piece = "." →
      Walks t links place rest left last → Walks t links place (piece :: rest) left last
  | up {links left : Nat} {place last : Location} {rest : List String} :
      t.hindrance? place ".." = none → Walks t links place.dropLast rest left last →
      Walks t links place (".." :: rest) left last
  | inside {links left : Nat} {place last : Location} {piece : String} {rest : List String}
      {entry : Entry} : t.LooksUp place piece → t.entry? (place ++ [piece]) = some entry →
      (∀ target, entry ≠ .link target) → Walks t links (place ++ [piece]) rest left last →
      Walks t links place (piece :: rest) left last
  | follow {links left : Nat} {place last : Location} {piece : String} {rest : List String}
      {target : Path} : t.LooksUp place piece → t.entry? (place ++ [piece]) = some (.link target) →
      Walks t links (if target.isAbsolute then [] else place) (target.pieces ++ rest) left last →
      Walks t (links + 1) place (piece :: rest) left last

/-- Nothing but a directory lets a piece pass, and an empty one passes any directory. -/
theorem hindrance?_empty :
    t.hindrance? place "" = none ↔ t.isDirectoryAt place = true := by
  rw [hindrance?]
  cases t.isDirectoryAt place <;> simp

theorem hindrance?_empty_of_eq_none (h : t.hindrance? place piece = none) :
    t.hindrance? place "" = none := by
  rw [hindrance?_empty]
  rw [hindrance?] at h
  cases hdirectory : t.isDirectoryAt place with
  | true => rfl
  | false => simp [hdirectory] at h

theorem isDirectoryAt_root (t : FileTree) : t.isDirectoryAt [] = true := by
  unfold isDirectoryAt entry?
  cases t.listed? [] with
  | none => rfl
  | some entry => cases entry <;> rfl

/-! ### The walk keeps to the rules -/

section

variable {follow : Location → List String → Except Fault Location}

theorem walkPieces_stay (hfree : t.hindrance? place piece = none) (hdot : piece = "" ∨ piece = ".")
    (rest : List String) :
    t.walkPieces follow place (piece :: rest) = t.walkPieces follow place rest := by
  rw [walkPieces, hfree]
  exact if_pos hdot

theorem walkPieces_up (hfree : t.hindrance? place ".." = none) (rest : List String) :
    t.walkPieces follow place (".." :: rest) = t.walkPieces follow place.dropLast rest := by
  have hdot : ¬ (".." = "" ∨ ".." = ".") := by decide
  rw [walkPieces, hfree]
  exact (if_neg hdot).trans (if_pos rfl)

/-- A name is looked up, and what stands there decides how the walk goes on. -/
theorem walkPieces_of_looksUp (h : t.LooksUp place piece) (rest : List String) :
    t.walkPieces follow place (piece :: rest) =
      match t.entry? (place ++ [piece]) with
      | none => .error .missing
      | some (.link target) =>
        follow (if target.isAbsolute then [] else place) (target.pieces ++ rest)
      | some _ => t.walkPieces follow (place ++ [piece]) rest := by
  have hdot : ¬ (piece = "" ∨ piece = ".") := not_or.mpr ⟨h.nonempty, h.not_dot⟩
  rw [walkPieces, h.free]
  refine (if_neg hdot).trans ?_
  rw [if_neg h.not_dots, if_neg (Nat.not_lt.mpr h.short)]
  exact if_neg h.no_zero

theorem walkPieces_inside {entry : Entry} (h : t.LooksUp place piece)
    (hentry : t.entry? (place ++ [piece]) = some entry) (hlink : ∀ target, entry ≠ .link target)
    (rest : List String) :
    t.walkPieces follow place (piece :: rest) = t.walkPieces follow (place ++ [piece]) rest := by
  rw [walkPieces_of_looksUp h, hentry]
  cases entry with
  | link target => exact absurd rfl (hlink target)
  | directory => rfl
  | file => rfl

end

/-- However many links are left, a walk goes on piece by piece up to the next one. -/
theorem exists_walk_eq (t : FileTree) : ∀ links, ∃ follow, t.walk links = t.walkPieces follow
  | 0 => ⟨_, t.walk_zero⟩
  | links + 1 => ⟨_, t.walk_succ links⟩

theorem walk_of_walks (h : t.Walks links place pieces left last) :
    t.walk links place pieces = .ok last := by
  induction h with
  | @done links =>
    obtain ⟨follow, hwalk⟩ := t.exists_walk_eq links
    rw [hwalk, walkPieces]
  | @stay links _ _ _ _ _ hfree hdot _ ih =>
    obtain ⟨follow, hwalk⟩ := t.exists_walk_eq links
    rw [hwalk, walkPieces_stay hfree hdot, ← hwalk, ih]
  | @up links _ _ _ _ hfree _ ih =>
    obtain ⟨follow, hwalk⟩ := t.exists_walk_eq links
    rw [hwalk, walkPieces_up hfree, ← hwalk, ih]
  | @inside links _ _ _ _ _ _ hlooks hentry hlink _ ih =>
    obtain ⟨follow, hwalk⟩ := t.exists_walk_eq links
    rw [hwalk, walkPieces_inside hlooks hentry hlink, ← hwalk, ih]
  | follow hlooks hentry _ ih =>
    rw [walk_succ, walkPieces_of_looksUp hlooks, hentry]
    exact ih

/-- The rules up to the first link, given what following a link comes to. -/
theorem exists_walks_of_walkPieces {follow : Location → List String → Except Fault Location}
    (hfollow : ∀ {place : Location} {piece : String} {rest : List String} {target : Path},
      t.LooksUp place piece → t.entry? (place ++ [piece]) = some (.link target) →
      follow (if target.isAbsolute then [] else place) (target.pieces ++ rest) = .ok last →
      ∃ left, t.Walks links place (piece :: rest) left last)
    (h : t.walkPieces follow place pieces = .ok last) :
    ∃ left, t.Walks links place pieces left last := by
  fun_induction walkPieces t follow place pieces with
  | case1 place =>
    rw [Except.ok.injEq] at h
    exact ⟨links, h ▸ .done⟩
  | case2 => cases h
  | case3 place piece rest hfree hdot ih =>
    obtain ⟨left, hwalks⟩ := ih h
    exact ⟨left, .stay hfree hdot hwalks⟩
  | case4 place rest hfree _ ih =>
    obtain ⟨left, hwalks⟩ := ih h
    exact ⟨left, .up hfree hwalks⟩
  | case5 => cases h
  | case6 => cases h
  | case7 => cases h
  | case8 place piece rest hfree hdot hdots hsize hzero target hentry =>
    obtain ⟨hnonempty, hnotdot⟩ := not_or.mp hdot
    exact hfollow ⟨hfree, hnonempty, hnotdot, hdots, Nat.le_of_not_lt hsize, hzero⟩ hentry h
  | case9 place piece rest hfree hdot hdots hsize hzero entry hlink hentry ih =>
    obtain ⟨left, hwalks⟩ := ih h
    obtain ⟨hnonempty, hnotdot⟩ := not_or.mp hdot
    exact ⟨left, .inside ⟨hfree, hnonempty, hnotdot, hdots, Nat.le_of_not_lt hsize, hzero⟩ hentry
      hlink hwalks⟩

theorem exists_walks_of_walk (h : t.walk links place pieces = .ok last) :
    ∃ left, t.Walks links place pieces left last := by
  induction links generalizing place pieces with
  | zero =>
    rw [walk_zero] at h
    refine exists_walks_of_walkPieces (fun _ _ hfollow => ?_) h
    cases hfollow
  | succ links ih =>
    rw [walk_succ] at h
    refine exists_walks_of_walkPieces (fun hlooks hentry hfollow => ?_) h
    obtain ⟨left, hwalks⟩ := ih hfollow
    exact ⟨left, .follow hlooks hentry hwalks⟩

theorem walk_eq_ok_iff :
    t.walk links place pieces = .ok last ↔ ∃ left, t.Walks links place pieces left last := by
  constructor
  · exact exists_walks_of_walk
  · rintro ⟨left, h⟩
    exact walk_of_walks h

/-! ### Cutting and spare links -/

theorem Walks.append {mid : Location} {links' : Nat} (hx : t.Walks links place xs links' mid)
    (hy : t.Walks links' mid ys left last) : t.Walks links place (xs ++ ys) left last := by
  induction hx with
  | done => exact hy
  | stay hfree hdot _ ih => exact .stay hfree hdot (ih hy)
  | up hfree _ ih => exact .up hfree (ih hy)
  | inside hlooks hentry hlink _ ih => exact .inside hlooks hentry hlink (ih hy)
  | follow hlooks hentry _ ih =>
    have hrest := ih hy
    rw [List.append_assoc] at hrest
    exact .follow hlooks hentry hrest

/-- A walk along two rows of pieces goes along the first one to some place and on from there. -/
theorem Walks.cut (h : t.Walks links place (xs ++ ys) left last) :
    ∃ links' mid, t.Walks links place xs links' mid ∧ t.Walks links' mid ys left last := by
  generalize hpieces : xs ++ ys = pieces at h
  induction h generalizing xs with
  | done =>
    obtain ⟨rfl, rfl⟩ := List.append_eq_nil_iff.mp hpieces
    exact ⟨_, _, .done, .done⟩
  | stay hfree hdot hrest ih =>
    obtain ⟨rfl, rfl⟩ | ⟨xs, rfl, rfl⟩ := List.append_eq_cons_iff.mp hpieces
    · exact ⟨_, _, .done, .stay hfree hdot hrest⟩
    · obtain ⟨links', mid, hx, hy⟩ := ih rfl
      exact ⟨links', mid, .stay hfree hdot hx, hy⟩
  | up hfree hrest ih =>
    obtain ⟨rfl, rfl⟩ | ⟨xs, rfl, rfl⟩ := List.append_eq_cons_iff.mp hpieces
    · exact ⟨_, _, .done, .up hfree hrest⟩
    · obtain ⟨links', mid, hx, hy⟩ := ih rfl
      exact ⟨links', mid, .up hfree hx, hy⟩
  | inside hlooks hentry hlink hrest ih =>
    obtain ⟨rfl, rfl⟩ | ⟨xs, rfl, rfl⟩ := List.append_eq_cons_iff.mp hpieces
    · exact ⟨_, _, .done, .inside hlooks hentry hlink hrest⟩
    · obtain ⟨links', mid, hx, hy⟩ := ih rfl
      exact ⟨links', mid, .inside hlooks hentry hlink hx, hy⟩
  | follow hlooks hentry hrest ih =>
    obtain ⟨rfl, rfl⟩ | ⟨xs, rfl, rfl⟩ := List.append_eq_cons_iff.mp hpieces
    · exact ⟨_, _, .done, .follow hlooks hentry hrest⟩
    · -- the pieces of the target come before what is left of the first row
      obtain ⟨links', mid, hx, hy⟩ := ih (List.append_assoc ..)
      exact ⟨links', mid, .follow hlooks hentry hx, hy⟩

/-- Links that are to spare at the start are to spare at the end. -/
theorem Walks.spare (h : t.Walks links place pieces left last) (spare : Nat) :
    t.Walks (links + spare) place pieces (left + spare) last := by
  induction h with
  | done => exact .done
  | stay hfree hdot _ ih => exact .stay hfree hdot ih
  | up hfree _ ih => exact .up hfree ih
  | inside hlooks hentry hlink _ ih => exact .inside hlooks hentry hlink ih
  | follow hlooks hentry _ ih =>
    rw [Nat.add_right_comm]
    exact .follow hlooks hentry ih

theorem Walks.left_le (h : t.Walks links place pieces left last) : left ≤ links := by
  induction h with
  | done => exact Nat.le_refl _
  | stay _ _ _ ih => exact ih
  | up _ _ ih => exact ih
  | inside _ _ _ _ ih => exact ih
  | follow _ _ _ ih => exact Nat.le_succ_of_le ih

/-- A walk that starts with more links to pass ends at the same place. -/
theorem Walks.of_le {links' : Nat} (h : t.Walks links place pieces left last)
    (hle : links ≤ links') : ∃ left', t.Walks links' place pieces left' last := by
  obtain ⟨spare, rfl⟩ := Nat.exists_eq_add_of_le hle
  exact ⟨left + spare, h.spare spare⟩

/-- There is one place only that a walk ends at. -/
theorem Walks.unique {left' : Nat} {last' : Location} (h : t.Walks links place pieces left last)
    (h' : t.Walks links place pieces left' last') : last = last' :=
  Except.ok.inj ((walk_of_walks h).symm.trans (walk_of_walks h'))

/-- A walk that goes on is not hindered. -/
theorem Walks.free {rest : List String} (h : t.Walks links place (piece :: rest) left last) :
    t.hindrance? place piece = none := by
  cases h with
  | stay hfree _ _ => exact hfree
  | up hfree _ => exact hfree
  | inside hlooks _ _ _ => exact hlooks.free
  | follow hlooks _ _ => exact hlooks.free

end FileTree

end JavaHomes
