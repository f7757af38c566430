import JavaHomes.Home
import JavaHomes.Proofs.Order
import JavaHomes.Proofs.Text
import JavaHomes.Proofs.Walk

/-!
Canonical paths. A walk through the file system ends at a place that is named without empty names,
dots and slashes, whatever the path and the links on it looked like. A path made of such names has
exactly them as its components, so canonical paths are the same only when they are equal as text.
-/

namespace JavaHomes

namespace Path

/-- A name that something in a directory can have. -/
structure IsName (n : String) : Prop where
  nonempty : n ≠ ""
  not_dot : n ≠ "."
  not_dots : n ≠ ".."
  no_slash : '/' ∉ n.toList

/-- Absolute, and free of empty names and dots. -/
def IsCanonical (p : Path) : Prop :=
  ∃ names, (∀ n ∈ names, IsName n) ∧ p = ofNames names

/-! ### Pieces -/

theorem pieces_eq (p : Path) : p.pieces = (p.text.toList.splitOn '/').map String.ofList := by
  rw [pieces, Text.splitBy_eq_splitOnP]
  rfl

theorem not_mem_of_mem_splitOn {c : Char} {piece : List Char} : ∀ {s : List Char},
    piece ∈ s.splitOn c → c ∉ piece
  | [], h => by
    rw [List.splitOn_nil, List.mem_singleton] at h
    rw [h]
    exact List.not_mem_nil
  | d :: s, h => by
    rw [List.splitOn_cons_eq_if_modifyHead] at h
    split at h
    · rcases List.mem_cons.mp h with hnil | hs
      · rw [hnil]
        exact List.not_mem_nil
      · exact not_mem_of_mem_splitOn hs
    · rename_i hd
      cases hs : s.splitOn c with
      | nil => exact absurd hs (List.splitOn_ne_nil c s)
      | cons first rest =>
        rw [hs, List.modifyHead_cons] at h
        rcases List.mem_cons.mp h with hfirst | hrest
        · rw [hfirst, List.mem_cons, not_or]
          refine ⟨fun hcd => hd (beq_iff_eq.mpr hcd.symm), not_mem_of_mem_splitOn (s := s) ?_⟩
          rw [hs]
          exact List.mem_cons_self
        · refine not_mem_of_mem_splitOn (s := s) ?_
          rw [hs]
          exact List.mem_cons_of_mem first hrest

/-- No piece of a path has a slash in it. -/
theorem slash_not_mem_of_mem_pieces {p : Path} {piece : String} (h : piece ∈ p.pieces) :
    '/' ∉ piece.toList := by
  rw [pieces_eq] at h
  obtain ⟨chars, hchars, rfl⟩ := List.mem_map.mp h
  rw [String.toList_ofList]
  exact not_mem_of_mem_splitOn hchars

/-! ### Canonical paths -/

theorem component?_of_isName {n : String} (h : IsName n) : component? n = some (.name n) := by
  rw [component?, if_neg (not_or.mpr ⟨h.nonempty, h.not_dot⟩), if_neg h.not_dots]

theorem filterMap_component? : ∀ {names : List String}, (∀ n ∈ names, IsName n) →
    names.filterMap component? = names.map Component.name
  | [], _ => rfl
  | n :: rest, h => by
    rw [List.filterMap_cons_some (component?_of_isName (h n List.mem_cons_self)), List.map_cons,
      filterMap_component? fun m hm => h m (List.mem_cons_of_mem n hm)]

theorem intercalate_cons (sep : List Char) : ∀ (first : List Char) (rest : List (List Char)),
    sep.intercalate (first :: rest) = first ++ rest.flatMap (sep ++ ·)
  | first, [] => by rw [List.intercalate_singleton, List.flatMap_nil, List.append_nil]
  | first, second :: rest => by
    rw [List.intercalate_cons_cons, intercalate_cons sep second rest, List.flatMap_cons,
      List.append_assoc, List.append_assoc]

/-- The names stand behind a slash each. -/
theorem text_ofNames {names : List String} (h : names ≠ []) :
    (ofNames names).text.toList = ['/'].intercalate ([] :: names.map String.toList) := by
  rw [intercalate_cons, List.nil_append, List.flatMap_map, ofNames.eq_2 _ h, String.toList_join,
    List.flatMap_map]
  simp only [String.toList_append]
  rfl

theorem pieces_ofNames {names : List String} (h : names ≠ []) (hnames : ∀ n ∈ names, IsName n) :
    (ofNames names).pieces = "" :: names := by
  have hslash : ∀ l ∈ [] :: names.map String.toList, '/' ∉ l := by
    intro l hl
    rcases List.mem_cons.mp hl with rfl | hmap
    · exact List.not_mem_nil
    · obtain ⟨n, hn, rfl⟩ := List.mem_map.mp hmap
      exact (hnames n hn).no_slash
  rw [pieces_eq, text_ofNames h, List.splitOn_intercalate '/' hslash (List.cons_ne_nil _ _)]
  simp

theorem isAbsolute_ofNames (names : List String) : (ofNames names).isAbsolute = true := by
  cases names with
  | nil => decide
  | cons n rest =>
    rw [isAbsolute, text_ofNames (List.cons_ne_nil n rest), intercalate_cons]
    rfl

theorem components_ofNames {names : List String} (h : ∀ n ∈ names, IsName n) :
    (ofNames names).components = .root :: names.map Component.name := by
  rw [components, if_pos (isAbsolute_ofNames names)]
  by_cases hempty : names = []
  · rw [hempty]
    decide
  · rw [pieces_ofNames hempty h, List.filterMap_cons_none rfl, filterMap_component? h]

/-- Canonical paths that count as the same are written the same. -/
theorem IsCanonical.eq_of_compare {p q : Path} (hp : IsCanonical p) (hq : IsCanonical q)
    (h : p.compare q = .eq) : p = q := by
  obtain ⟨names, hnames, rfl⟩ := hp
  obtain ⟨names', hnames', rfl⟩ := hq
  rw [compare_eq_eq, components_ofNames hnames, components_ofNames hnames', List.cons.injEq] at h
  rw [(List.map_inj_right fun _ _ => Component.name.inj).mp h.2]

end Path

/-! ### Walks -/

namespace FileTree

open JavaHomes.Path

variable {t : FileTree}

/-- A place that is reached from the root without links: each name on the way is one that a
directory can have, and is looked up in the directory before it, where something other than a link
stands. -/
inductive Reachable (t : FileTree) : Location → Prop
  | root : Reachable t []
  | inside {place : Location} {name : String} {entry : Entry} : Reachable t place →
      t.LooksUp place name → '/' ∉ name.toList → t.entry? (place ++ [name]) = some entry →
      (∀ target, entry ≠ .link target) → Reachable t (place ++ [name])

theorem Reachable.isName {place : Location} (h : Reachable t place) : ∀ n ∈ place, IsName n := by
  induction h with
  | root => exact fun n hn => absurd hn List.not_mem_nil
  | inside _ hlooks hslash _ _ ih =>
    refine List.forall_mem_append.mpr ⟨ih, List.forall_mem_singleton.mpr ?_⟩
    exact ⟨hlooks.nonempty, hlooks.not_dot, hlooks.not_dots, hslash⟩

/-- The directory above a reachable place is reachable. -/
theorem Reachable.dropLast {place : Location} (h : Reachable t place) :
    Reachable t place.dropLast := by
  cases h with
  | root => exact .root
  | inside hplace _ _ _ _ =>
    rw [List.dropLast_concat]
    exact hplace

/-- A walk from a reachable place ends at a reachable place, through whatever links it goes. -/
theorem Walks.reachable {links left : Nat} {place : Location} {pieces : List String}
    {last : Location} (h : t.Walks links place pieces left last) (hplace : Reachable t place)
    (hpieces : ∀ piece ∈ pieces, '/' ∉ piece.toList) : Reachable t last := by
  induction h with
  | done => exact hplace
  | stay _ _ _ ih => exact ih hplace (List.forall_mem_cons.mp hpieces).2
  | up _ _ ih => exact ih hplace.dropLast (List.forall_mem_cons.mp hpieces).2
  | inside hlooks hentry hlink _ ih =>
    obtain ⟨hslash, hrest⟩ := List.forall_mem_cons.mp hpieces
    exact ih (.inside hplace hlooks hslash hentry hlink) hrest
  | @follow _ _ place _ _ _ target _ _ _ ih =>
    have hfrom : Reachable t (if target.isAbsolute then [] else place) := by
      split
      · exact .root
      · exact hplace
    refine ih hfrom (List.forall_mem_append.mpr ⟨fun piece => slash_not_mem_of_mem_pieces, ?_⟩)
    exact (List.forall_mem_cons.mp hpieces).2

theorem reaches_iff {place : Location} :
    t.reaches place = true ↔ t.walk linkLimit [] place = .ok place := by
  rw [reaches]
  cases t.walk linkLimit [] place <;> simp

/-- What the names of the place that a path starts from lead to from the root is reachable. -/
theorem reachable_start {p : Path} (h : t.reaches (t.start p) = true) :
    Reachable t (t.start p) := by
  obtain ⟨left, hwalks⟩ := exists_walks_of_walk (reaches_iff.mp h)
  refine hwalks.reachable .root fun name hname => ?_
  rw [start] at hname
  split at hname
  · exact absurd hname List.not_mem_nil
  · exact slash_not_mem_of_mem_pieces (List.mem_filter.mp hname).1

/-- An absolute path starts at the root, which everything is reached from. -/
theorem reaches_start_of_isAbsolute {p : Path} (h : p.isAbsolute = true) :
    t.reaches (t.start p) = true := by
  rw [reaches_iff, start, if_pos h]
  exact walk_of_walks .done

/-- What a path leads to is reachable if the place is that the path starts from. -/
theorem reachable_of_locate {p : Path} {place : Location} (h : t.locate p = .ok place)
    (hstart : t.reaches (t.start p) = true) : Reachable t place := by
  rw [locate] at h
  split at h
  · cases h
  · split at h
    · cases h
    · obtain ⟨left, hwalks⟩ := exists_walks_of_walk h
      exact hwalks.reachable (reachable_start hstart) fun piece => slash_not_mem_of_mem_pieces

theorem canonicalPlace?_eq_some {p : Path} {place : Location} :
    t.canonicalPlace? p = some place ↔
      t.locate p = .ok place ∧ t.reaches (t.start p) = true := by
  rw [canonicalPlace?]
  cases t.locate p with
  | error fault => simp
  | ok last => cases t.reaches (t.start p) <;> simp

theorem canonical?_eq_some {p q : Path} : t.canonical? p = some q ↔
    ∃ place, t.locate p = .ok place ∧ t.reaches (t.start p) = true ∧ ofNames place = q := by
  rw [canonical?, Option.map_eq_some_iff]
  simp only [canonicalPlace?_eq_some, and_assoc]

theorem isCanonical_of_canonical? {p q : Path} (h : t.canonical? p = some q) : q.IsCanonical := by
  obtain ⟨place, hplace, hstart, rfl⟩ := canonical?_eq_some.mp h
  exact ⟨place, (reachable_of_locate hplace hstart).isName, rfl⟩

end FileTree

theorem Home.isCanonical_of_resolve? {t : FileTree} {p home : Path} (h : resolve? t p = some home) :
    home.IsCanonical := by
  rw [resolve?] at h
  split at h
  · exact FileTree.isCanonical_of_canonical? h
  · split at h
    · exact FileTree.isCanonical_of_canonical? h
    · cases h

end JavaHomes
