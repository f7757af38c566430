import Mathlib.Data.List.Nodup
import JavaHomes.Proofs.Resolution

/-!
The order in which a file system lists its entries. Only what stands at each place counts: two
listings of the same entries resolve every path alike, and their directories have the same names.
-/

namespace JavaHomes

namespace FileTree

variable {t t' : FileTree} {p : Path} {links left : Nat} {place last : Location}
  {name piece : String} {pieces : List String}

/-- The same things stand at the same places, in whatever order they are listed. -/
structure Agrees (t t' : FileTree) : Prop where
  entry_eq : ∀ place, t.entry? place = t'.entry? place
  workingDirectory_eq : t.workingDirectory = t'.workingDirectory

theorem entry_of_ne_nil (hplace : place ≠ []) : t.entry? place = t.listed? place := by
  cases place with
  | nil => exact absurd rfl hplace
  | cons name rest => rfl

theorem mem_entries_of_listed? {entry : Entry} (h : t.listed? place = some entry) :
    (place, entry) ∈ t.entries := by
  rw [listed?, Option.map_eq_some_iff] at h
  obtain ⟨⟨place', entry'⟩, hfind, rfl⟩ := h
  have hkey := List.find?_some hfind
  rw [beq_iff_eq] at hkey
  exact hkey ▸ List.mem_of_find?_eq_some hfind

theorem listed?_ne_none : t.listed? place ≠ none ↔ ∃ entry, (place, entry) ∈ t.entries := by
  constructor
  · intro h
    obtain ⟨entry, hentry⟩ := Option.ne_none_iff_exists'.mp h
    exact ⟨entry, mem_entries_of_listed? hentry⟩
  · rintro ⟨entry, hmem⟩
    rw [listed?, ne_eq, Option.map_eq_none_iff, List.find?_eq_none]
    exact fun hnone => hnone _ hmem (beq_self_eq_true _)

/-- When every place is listed once, another order of listing is all the same. -/
theorem listed?_eq_of_perm (hnodup : (t.entries.map Prod.fst).Nodup)
    (h : t.entries.Perm t'.entries) (place : Location) : t.listed? place = t'.listed? place := by
  have hnone : t.listed? place ≠ none ↔ t'.listed? place ≠ none := by
    rw [listed?_ne_none, listed?_ne_none]
    exact exists_congr fun entry => h.mem_iff
  cases hentry : t.listed? place with
  | none => exact (not_not.mp (mt hnone.mpr (not_not.mpr hentry))).symm
  | some entry =>
    obtain ⟨entry', hentry'⟩ :=
      Option.ne_none_iff_exists'.mp (hnone.mp (hentry ▸ Option.some_ne_none entry))
    have hmem := mem_entries_of_listed? hentry
    have hmem' := h.mem_iff.mpr (mem_entries_of_listed? hentry')
    have hsame := List.inj_on_of_nodup_map hnodup hmem hmem' rfl
    rw [hentry', (Prod.mk.inj hsame).2]

theorem agrees_of_perm (hnodup : (t.entries.map Prod.fst).Nodup) (h : t.entries.Perm t'.entries)
    (hdirectory : t.workingDirectory = t'.workingDirectory) : t.Agrees t' := by
  refine ⟨fun place => ?_, hdirectory⟩
  unfold entry?
  rw [listed?_eq_of_perm hnodup h]

/-! ### The same walks -/

theorem Agrees.symm (h : t.Agrees t') : t'.Agrees t :=
  ⟨fun place => (h.entry_eq place).symm, h.workingDirectory_eq.symm⟩

theorem Agrees.isDirectoryAt_eq (h : t.Agrees t') (place : Location) :
    t.isDirectoryAt place = t'.isDirectoryAt place := by
  rw [isDirectoryAt, isDirectoryAt, h.entry_eq]

theorem Agrees.isReadableAt_eq (h : t.Agrees t') (place : Location) :
    t.isReadableAt place = t'.isReadableAt place := by
  rw [isReadableAt, isReadableAt, h.entry_eq]

theorem Agrees.hindrance?_eq (h : t.Agrees t') (place : Location) (piece : String) :
    t.hindrance? place piece = t'.hindrance? place piece := by
  rw [hindrance?, hindrance?, h.isDirectoryAt_eq, isSearchableAt, isSearchableAt, h.entry_eq]

theorem Agrees.start_eq (h : t.Agrees t') (p : Path) : t.start p = t'.start p := by
  rw [start, start, here, here, h.workingDirectory_eq]

theorem LooksUp.agree (hlooks : t.LooksUp place piece) (h : t.Agrees t') :
    t'.LooksUp place piece :=
  { hlooks with free := h.hindrance?_eq place piece ▸ hlooks.free }

theorem Walks.agree (hwalks : t.Walks links place pieces left last) (h : t.Agrees t') :
    t'.Walks links place pieces left last := by
  induction hwalks with
  | done => exact .done
  | stay hfree hdot _ ih => exact .stay (h.hindrance?_eq _ _ ▸ hfree) hdot ih
  | up hfree _ ih => exact .up (h.hindrance?_eq _ _ ▸ hfree) ih
  | inside hlooks hentry hlink _ ih =>
    exact .inside (hlooks.agree h) (h.entry_eq _ ▸ hentry) hlink ih
  | follow hlooks hentry _ ih => exact .follow (hlooks.agree h) (h.entry_eq _ ▸ hentry) ih

theorem Agrees.locate_of_locate (h : t.Agrees t') (hplace : t.locate p = .ok place) :
    t'.locate p = .ok place := by
  obtain ⟨hzero, hempty, left, hwalks⟩ := locate_eq_ok_iff.mp hplace
  exact locate_eq_ok_iff.mpr ⟨hzero, hempty, left, h.start_eq p ▸ hwalks.agree h⟩

theorem Agrees.locate_eq_ok (h : t.Agrees t') : t.locate p = .ok place ↔ t'.locate p = .ok place :=
  ⟨h.locate_of_locate, h.symm.locate_of_locate⟩

/-! ### The same answers -/

theorem isDirectory_iff :
    t.isDirectory p = true ↔ ∃ place, t.locate p = .ok place ∧ t.isDirectoryAt place = true := by
  rw [isDirectory]
  cases t.locate p <;> simp

/-- The names that stand in a directory. -/
theorem mem_childNames : name ∈ t.entries.filterMap (childName? place) ↔
    t.entry? (place ++ [name]) ≠ none := by
  have hplace : place ++ [name] ≠ [] := List.append_ne_nil_of_right_ne_nil _ (List.cons_ne_nil _ _)
  rw [entry_of_ne_nil hplace, listed?_ne_none, List.mem_filterMap]
  constructor
  · rintro ⟨⟨inner, entry⟩, hmem, hname⟩
    rw [childName?] at hname
    split at hname
    · rename_i child hchild
      obtain rfl := Option.some.inj hname
      rw [List.isPrefixOf?_eq_some_iff_append_eq] at hchild
      exact ⟨entry, hchild ▸ hmem⟩
    · cases hname
  · rintro ⟨entry, hmem⟩
    refine ⟨_, hmem, ?_⟩
    have hchild : place.isPrefixOf? (place ++ [name]) = some [name] :=
      List.isPrefixOf?_eq_some_iff_append_eq.mpr rfl
    rw [childName?, hchild]

theorem exists_mem_names? : (∃ names, t.names? p = some names ∧ name ∈ names) ↔
    ∃ place, t.locate p = .ok place ∧ t.isReadableAt place = true ∧
      t.entry? (place ++ [name]) ≠ none := by
  rw [names?]
  cases t.locate p with
  | error fault => simp
  | ok place =>
    cases hreadable : t.isReadableAt place with
    | false => simp [hreadable]
    | true => simp only [hreadable, if_true, Option.some.injEq, Except.ok.injEq, exists_eq_left',
        true_and, mem_childNames]

namespace Agrees

variable (h : t.Agrees t')

include h

theorem reaches_eq (place : Location) : t.reaches place = t'.reaches place := by
  rw [Bool.eq_iff_iff, reaches_iff, reaches_iff, walk_eq_ok_iff, walk_eq_ok_iff]
  exact exists_congr fun left => ⟨fun hwalks => hwalks.agree h, fun hwalks => hwalks.agree h.symm⟩

theorem canonical?_eq (p : Path) : t.canonical? p = t'.canonical? p := by
  refine Option.ext fun q => ?_
  rw [canonical?_eq_some, canonical?_eq_some]
  simp only [h.locate_eq_ok, h.start_eq, h.reaches_eq]

theorem isFile_eq (p : Path) : t.isFile p = t'.isFile p := by
  rw [Bool.eq_iff_iff, isFile_iff, isFile_iff]
  simp only [h.locate_eq_ok, h.entry_eq]

theorem isDirectory_eq (p : Path) : t.isDirectory p = t'.isDirectory p := by
  rw [Bool.eq_iff_iff, isDirectory_iff, isDirectory_iff]
  simp only [h.locate_eq_ok, h.isDirectoryAt_eq]

theorem mem_names?_iff : (∃ names, t.names? p = some names ∧ name ∈ names) ↔
    ∃ names, t'.names? p = some names ∧ name ∈ names := by
  rw [exists_mem_names?, exists_mem_names?]
  simp only [h.locate_eq_ok, h.isReadableAt_eq, h.entry_eq]

theorem resolve?_eq (p : Path) : Home.resolve? t p = Home.resolve? t' p := by
  simp only [Home.resolve?, h.isFile_eq, h.canonical?_eq]

end Agrees

end FileTree

end JavaHomes
