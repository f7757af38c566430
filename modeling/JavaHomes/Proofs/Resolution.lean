import JavaHomes.Proofs.Canonical

/-!
What a path resolves to. A canonical path leads to the place that it was made of, so a canonical
home has the launcher that was seen on the way to it. The other way round, a path with a launcher
has a canonical path if it is not empty and the place that it starts from is reached from the root.
-/

namespace JavaHomes

namespace FileTree

open JavaHomes.Path

variable {t : FileTree} {links left : Nat} {place last : Location}

/-! ### Canonical paths lead back -/

theorem Reachable.no_zero (h : Reachable t place) : ∀ n ∈ place, '\x00' ∉ n.toList := by
  induction h with
  | root => exact fun n hn => absurd hn List.not_mem_nil
  | inside _ hlooks _ _ _ ih =>
    exact List.forall_mem_append.mpr ⟨ih, List.forall_mem_singleton.mpr hlooks.no_zero⟩

/-- The names of a reachable place lead there, and no link is passed. -/
theorem Reachable.walks (h : Reachable t place) (links : Nat) :
    t.Walks links [] place links place := by
  induction h with
  | root => exact .done
  | inside _ hlooks _ hentry hlink ih => exact ih.append (.inside hlooks hentry hlink .done)

theorem walks_ofNames (h : Reachable t place) (links : Nat) :
    t.Walks links [] (ofNames place).pieces links place := by
  have hroot : t.hindrance? [] "" = none := hindrance?_empty.mpr (isDirectoryAt_root t)
  by_cases hempty : place = []
  · rw [hempty]
    exact .stay hroot (.inl rfl) (.stay hroot (.inl rfl) .done)
  · rw [pieces_ofNames hempty h.isName]
    exact .stay hroot (.inl rfl) (h.walks links)

theorem locate_eq_ok_iff {p : Path} :
    t.locate p = .ok place ↔ '\x00' ∉ p.text.toList ∧ p.text ≠ "" ∧
      ∃ left, t.Walks linkLimit (t.start p) p.pieces left place := by
  rw [locate, ← walk_eq_ok_iff]
  by_cases hzero : '\x00' ∈ p.text.toList
  · simp [hzero]
  · by_cases hempty : p.text = ""
    · simp [hempty]
    · simp [hzero, hempty]

theorem file?_eq_some {p : Path} {file : File} : t.file? p = some file ↔
    ∃ place, t.locate p = .ok place ∧ t.entry? place = some (.file file) := by
  rw [file?]
  cases t.locate p with
  | error fault => simp
  | ok place =>
    cases hentry : t.entry? place with
    | none => simp [hentry]
    | some entry => cases entry <;> simp [hentry]

theorem isFile_iff {p : Path} : t.isFile p = true ↔
    ∃ place file, t.locate p = .ok place ∧ t.entry? place = some (.file file) := by
  rw [isFile, Option.isSome_iff_exists, exists_comm]
  simp only [file?_eq_some]

theorem text_ofNames_ne_empty (names : List String) : (ofNames names).text ≠ "" := by
  intro hempty
  have habsolute := isAbsolute_ofNames names
  rw [isAbsolute, hempty] at habsolute
  exact absurd habsolute (by decide)

theorem zero_not_mem_ofNames {names : List String} (h : ∀ n ∈ names, '\x00' ∉ n.toList) :
    '\x00' ∉ (ofNames names).text.toList := by
  by_cases hempty : names = []
  · rw [hempty]
    decide
  · rw [text_ofNames hempty, intercalate_cons, List.nil_append, List.flatMap_map, List.mem_flatMap]
    rintro ⟨n, hn, hzero⟩
    rcases List.mem_cons.mp hzero with hslash | hzero
    · exact absurd hslash (by decide)
    · exact h n hn hzero

theorem locate_ofNames (h : Reachable t place) : t.locate (ofNames place) = .ok place := by
  refine locate_eq_ok_iff.mpr ⟨zero_not_mem_ofNames h.no_zero,
    text_ofNames_ne_empty place, linkLimit, ?_⟩
  rw [start, if_pos (isAbsolute_ofNames place)]
  exact walks_ofNames h linkLimit

/-- The canonical path of a canonical path is that path. -/
theorem canonical?_of_canonical? {p q : Path} (h : t.canonical? p = some q) :
    t.canonical? q = some q := by
  obtain ⟨place, hplace, hstart, rfl⟩ := canonical?_eq_some.mp h
  exact canonical?_eq_some.mpr ⟨place, locate_ofNames (reachable_of_locate hplace hstart),
    reaches_start_of_isAbsolute (isAbsolute_ofNames place), rfl⟩

/-! ### Paths inside a path -/

theorem pieces_ne_nil (p : Path) : p.pieces ≠ [] := by
  rw [pieces_eq, Ne, List.map_eq_nil_iff]
  exact List.splitOn_ne_nil '/' _

/-- The pieces of a path inside another one, which may end in a slash. -/
theorem pieces_join {p : Path} {name : String} (hp : p.text ≠ "")
    (hname : name.toList.head? ≠ some '/') :
    ∃ front, (p.pieces = front ∨ p.pieces = front ++ [""]) ∧
      (p.join name).pieces = front ++ (⟨name⟩ : Path).pieces := by
  rw [join, if_neg (not_or.mpr ⟨hname, hp⟩)]
  simp only [pieces_eq]
  split
  · rename_i hslash
    obtain ⟨front, hfront⟩ := List.getLast?_eq_some_iff.mp hslash
    refine ⟨(front.splitOn '/').map String.ofList, .inr ?_, ?_⟩
    · rw [hfront, List.splitOn_append_cons_self, List.splitOn_nil, List.map_append]
      rfl
    · rw [String.toList_append, hfront, List.append_assoc, List.singleton_append,
        List.splitOn_append_cons_self, List.map_append]
  · refine ⟨_, .inl rfl, ?_⟩
    have hlist : (p.text ++ "/" ++ name).toList = p.text.toList ++ '/' :: name.toList := by
      rw [String.toList_append, String.toList_append, List.append_assoc]
      rfl
    rw [hlist, List.splitOn_append_cons_self, List.map_append]

theorem isAbsolute_join {p : Path} {name : String} (hp : p.text ≠ "")
    (hname : name.toList.head? ≠ some '/') : (p.join name).isAbsolute = p.isAbsolute := by
  have hlist : p.text.toList ≠ [] := fun h => hp (String.toList_eq_nil_iff.mp h)
  rw [join, if_neg (not_or.mpr ⟨hname, hp⟩)]
  split
  · simp [isAbsolute, List.head?_append, List.head?_eq_some_head hlist]
  · simp [isAbsolute, List.head?_append, List.head?_eq_some_head hlist]

/-- A path inside another one starts from the same place. -/
theorem start_join {p : Path} {name : String} (hp : p.text ≠ "")
    (hname : name.toList.head? ≠ some '/') : t.start (p.join name) = t.start p := by
  rw [start, start, isAbsolute_join hp hname]

/-- An empty piece leads nowhere else. -/
theorem Walks.of_empty (h : t.Walks links place [""] left last) : links = left ∧ place = last := by
  generalize hpieces : [""] = pieces at h
  cases h with
  | done => cases hpieces
  | stay _ _ hrest =>
    obtain ⟨-, rfl⟩ := List.cons.inj hpieces
    cases hrest
    exact ⟨rfl, rfl⟩
  | up => exact absurd (List.cons.inj hpieces).1 (by decide)
  | inside hlooks => exact absurd (List.cons.inj hpieces).1.symm hlooks.nonempty
  | follow hlooks => exact absurd (List.cons.inj hpieces).1.symm hlooks.nonempty

/-- Whoever goes to a path inside another one comes by the latter. -/
theorem walks_join {p : Path} {name : String} (hp : p.text ≠ "")
    (hname : name.toList.head? ≠ some '/') :
    t.Walks links (t.start (p.join name)) (p.join name).pieces left last ↔
      ∃ links' mid, t.Walks links (t.start p) p.pieces links' mid ∧
        t.Walks links' mid (⟨name⟩ : Path).pieces left last := by
  obtain ⟨front, hfront, hjoin⟩ := pieces_join hp hname
  rw [start_join hp hname, hjoin]
  constructor
  · intro h
    obtain ⟨links', mid, hpath, hrest⟩ := h.cut
    refine ⟨links', mid, ?_, hrest⟩
    rcases hfront with hfront | hfront
    · rw [hfront]
      exact hpath
    · -- the name is looked up in a directory, so the empty piece behind the slash is passed
      have hfree : t.hindrance? mid "" = none := by
        cases hpieces : (⟨name⟩ : Path).pieces with
        | nil => exact absurd hpieces (pieces_ne_nil _)
        | cons piece rest =>
          rw [hpieces] at hrest
          exact hindrance?_empty_of_eq_none hrest.free
      rw [hfront]
      exact hpath.append (.stay hfree (.inl rfl) .done)
  · rintro ⟨links', mid, hpath, hrest⟩
    rcases hfront with hfront | hfront
    · rw [hfront] at hpath
      exact hpath.append hrest
    · rw [hfront] at hpath
      obtain ⟨links'', mid', hstart, hempty⟩ := hpath.cut
      obtain ⟨rfl, rfl⟩ := hempty.of_empty
      exact hstart.append hrest

theorem text_join_ne_empty {p : Path} {name : String} (hname : name ≠ "") :
    (p.join name).text ≠ "" := by
  rw [join]
  split
  · exact hname
  · split <;> simp [hname]

theorem start_launcher {p : Path} (hp : p.text ≠ "") : t.start p.launcher = t.start p := by
  rw [launcher, start_join (text_join_ne_empty (by decide)) (by decide), start_join hp (by decide)]

/-- The way to the launcher of a home goes by the home. -/
theorem walks_launcher {p : Path} (hp : p.text ≠ "") :
    t.Walks links (t.start p.launcher) p.launcher.pieces left last ↔
      ∃ links' mid, t.Walks links (t.start p) p.pieces links' mid ∧
        t.Walks links' mid ["bin", "java"] left last := by
  have hbin : (p.join "bin").text ≠ "" := text_join_ne_empty (by decide)
  have hbinPieces : (⟨"bin"⟩ : Path).pieces = ["bin"] := by decide
  have hjavaPieces : (⟨"java"⟩ : Path).pieces = ["java"] := by decide
  rw [launcher, walks_join hbin (by decide), hjavaPieces]
  constructor
  · rintro ⟨links₁, bin, hbinWalks, hjava⟩
    obtain ⟨links₂, home, hhome, hrest⟩ := (walks_join hp (by decide)).mp hbinWalks
    rw [hbinPieces] at hrest
    exact ⟨links₂, home, hhome, hrest.append hjava⟩
  · rintro ⟨links₂, home, hhome, hrest⟩
    have hsplit : t.Walks links₂ home (["bin"] ++ ["java"]) left last := hrest
    obtain ⟨links₁, bin, hbinWalks, hjava⟩ := hsplit.cut
    refine ⟨links₁, bin, (walks_join hp (by decide)).mpr ⟨links₂, home, hhome, ?_⟩, hjava⟩
    rw [hbinPieces]
    exact hbinWalks

theorem zero_not_mem_join {p : Path} {name : String} (hp : '\x00' ∉ p.text.toList)
    (hname : '\x00' ∉ name.toList) : '\x00' ∉ (p.join name).text.toList := by
  rw [join]
  split
  · exact hname
  · split <;> simp [hp, hname]

/-- The launcher of a canonical path is where the last two steps lead from its place. -/
theorem locate_launcher_ofNames (hplace : Reachable t place)
    (h : t.Walks linkLimit place ["bin", "java"] left last) :
    t.locate (ofNames place).launcher = .ok last := by
  refine locate_eq_ok_iff.mpr ⟨?_, text_join_ne_empty (by decide), left, ?_⟩
  · have hzero := zero_not_mem_ofNames hplace.no_zero
    exact zero_not_mem_join (zero_not_mem_join hzero (by decide)) (by decide)
  · refine (walks_launcher (text_ofNames_ne_empty place)).mpr ?_
    refine ⟨linkLimit, place, ?_, h⟩
    rw [start, if_pos (isAbsolute_ofNames place)]
    exact walks_ofNames hplace linkLimit

/-- The launcher of a path is also the launcher of its canonical path. -/
theorem locate_launcher {p home : Path} (hcanonical : t.canonical? p = some home)
    (h : t.locate p.launcher = .ok last) : t.locate home.launcher = .ok last := by
  obtain ⟨place, hplace, hstart, rfl⟩ := canonical?_eq_some.mp hcanonical
  obtain ⟨-, hempty, spent, hpath⟩ := locate_eq_ok_iff.mp hplace
  obtain ⟨-, -, left, hlauncher⟩ := locate_eq_ok_iff.mp h
  obtain ⟨links', mid, hmid, hrest⟩ := (walks_launcher hempty).mp hlauncher
  rw [hmid.unique hpath] at hrest
  obtain ⟨left', hrest'⟩ := hrest.of_le hmid.left_le
  exact locate_launcher_ofNames (reachable_of_locate hplace hstart) hrest'

theorem isFile_launcher {p home : Path} (hcanonical : t.canonical? p = some home)
    (h : t.isFile p.launcher = true) : t.isFile home.launcher = true := by
  obtain ⟨place, file, hplace, hfile⟩ := isFile_iff.mp h
  exact isFile_iff.mpr ⟨place, file, locate_launcher hcanonical hplace, hfile⟩

theorem zero_not_mem_of_join {p : Path} {name : String} (hp : p.text ≠ "")
    (hname : name.toList.head? ≠ some '/') (h : '\x00' ∉ (p.join name).text.toList) :
    '\x00' ∉ p.text.toList := by
  rw [join, if_neg (not_or.mpr ⟨hname, hp⟩)] at h
  intro hzero
  split at h
  · exact h (by simp [hzero])
  · exact h (by simp [hzero])

/-- A path with a launcher leads to a place itself, and has a canonical path if the place that it
starts from is reached from the root. Not so the empty path: it leads nowhere, while the launcher
inside it is looked for in the working directory. -/
theorem exists_canonical?_of_isFile_launcher {p : Path} (hp : p.text ≠ "")
    (hstart : t.reaches (t.start p) = true) (h : t.isFile p.launcher = true) :
    ∃ home, t.canonical? p = some home := by
  obtain ⟨last, file, hplace, -⟩ := isFile_iff.mp h
  obtain ⟨hzero, -, left, hwalks⟩ := locate_eq_ok_iff.mp hplace
  obtain ⟨links, home, hhome, -⟩ := (walks_launcher hp).mp hwalks
  have hbin : '\x00' ∉ (p.join "bin").text.toList :=
    zero_not_mem_of_join (text_join_ne_empty (by decide)) (by decide) hzero
  have hlocate : t.locate p = .ok home :=
    locate_eq_ok_iff.mpr ⟨zero_not_mem_of_join hp (by decide) hbin, hp, links, hhome⟩
  exact ⟨ofNames home, canonical?_eq_some.mpr ⟨home, hlocate, hstart, rfl⟩⟩

end FileTree

namespace Home

variable {t : FileTree} {p home : Path}

/-- What a path resolves to is the canonical path of a place with a launcher. -/
theorem exists_of_resolve? (h : resolve? t p = some home) :
    ∃ q, t.canonical? q = some home ∧ t.isFile q.launcher = true := by
  rw [resolve?] at h
  split at h
  · rename_i hfile
    exact ⟨inBundle p, h, hfile⟩
  · split at h
    · rename_i hfile
      exact ⟨p, h, hfile⟩
    · cases h

theorem canonical?_of_resolve? (h : resolve? t p = some home) : t.canonical? home = some home := by
  obtain ⟨q, hcanonical, -⟩ := exists_of_resolve? h
  exact FileTree.canonical?_of_canonical? hcanonical

theorem isFile_of_resolve? (h : resolve? t p = some home) : t.isFile home.launcher = true := by
  obtain ⟨q, hcanonical, hfile⟩ := exists_of_resolve? h
  exact FileTree.isFile_launcher hcanonical hfile

/-- Whichever of a path and its bundle has a launcher has a canonical path. -/
def Nameable (t : FileTree) (p : Path) : Prop :=
  ∀ q ∈ [inBundle p, p], t.isFile q.launcher = true → ∃ home, t.canonical? q = some home

/-- Only an empty path, and a relative one in a working directory that cannot be reached from the
root, may have a launcher and no canonical path. -/
theorem nameable_of_reaches (hp : p.text ≠ "") (hstart : t.reaches (t.start p) = true) :
    Nameable t p := by
  intro q hq hfile
  rcases List.mem_pair.mp hq with rfl | rfl
  · have hempty : (inBundle p).text ≠ "" := FileTree.text_join_ne_empty (by decide)
    have hsame : t.start (inBundle p) = t.start p := FileTree.start_join hp (by decide)
    exact FileTree.exists_canonical?_of_isFile_launcher hempty (hsame ▸ hstart) hfile
  · exact FileTree.exists_canonical?_of_isFile_launcher hp hstart hfile

/-- A path that resolves to nothing has no launcher. -/
theorem isFile_launcher_of_resolve?_eq_none (h : resolve? t p = none) (hp : Nameable t p) :
    t.isFile p.launcher = false := by
  rw [resolve?] at h
  split at h
  · rename_i hbundle
    obtain ⟨home, hhome⟩ := hp _ List.mem_cons_self hbundle
    cases h.symm.trans hhome
  · split at h
    · rename_i hfile
      obtain ⟨home, hhome⟩ := hp p (List.mem_cons_of_mem _ List.mem_cons_self) hfile
      cases h.symm.trans hhome
    · rename_i hfile
      exact Bool.not_eq_true _ ▸ hfile

end Home

end JavaHomes
