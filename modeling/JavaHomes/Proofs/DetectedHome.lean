import JavaHomes.Proofs.Resolution

/-!
The home that is detected by way of the search path. It is always canonical and has a launcher, but
it is looked for two levels above the program that was found, whatever that program and its
directory are called. Its launcher is therefore the one by which that directory is taken for a home,
and this is the program itself when the program lies there as `bin/java` and no bundle gets in front
of it.
-/

namespace JavaHomes.Home

open JavaHomes.FileTree

variable {t : FileTree} {env : Environment} {p home : Path}

/-- The launcher by which a path is taken for a home; that of a bundle goes before its own. -/
def launcherSeen (t : FileTree) (p : Path) : Path :=
  if t.isFile (inBundle p).launcher then (inBundle p).launcher else p.launcher

/-- The launcher of the canonical path of a home is the launcher of the home. -/
theorem canonical?_launcher (hcanonical : t.canonical? p = some home)
    (hfile : t.isFile p.launcher = true) :
    t.canonical? home.launcher = t.canonical? p.launcher := by
  obtain ⟨last, file, hlast, -⟩ := isFile_iff.mp hfile
  have hown := locate_launcher hcanonical hlast
  obtain ⟨place, hplace, hstart, rfl⟩ := canonical?_eq_some.mp hcanonical
  obtain ⟨-, hp, -⟩ := locate_eq_ok_iff.mp hplace
  have hleft : t.canonical? (Path.ofNames place).launcher = some (.ofNames last) := by
    refine canonical?_eq_some.mpr ⟨last, hown, ?_, rfl⟩
    rw [start_launcher (text_ofNames_ne_empty place)]
    exact reaches_start_of_isAbsolute (Path.isAbsolute_ofNames place)
  have hright : t.canonical? p.launcher = some (.ofNames last) :=
    canonical?_eq_some.mpr ⟨last, hlast, (start_launcher hp).symm ▸ hstart, rfl⟩
  rw [hleft, hright]

/-- What a path resolves to has the launcher by which the path was taken for a home. -/
theorem canonical?_launcher_of_resolve? (h : resolve? t p = some home) :
    t.canonical? home.launcher = t.canonical? (launcherSeen t p) := by
  rw [resolve?] at h
  rw [launcherSeen]
  split at h
  · rename_i hbundle
    rw [if_pos hbundle, canonical?_launcher h hbundle]
  · rename_i hbundle
    rw [if_neg hbundle]
    split at h
    · rename_i hplain
      exact canonical?_launcher h hplain
    · cases h

/-- The detected home is what the directory two levels above the program resolves to. -/
theorem exists_of_detect? (h : detect? t env = some home) :
    ∃ program dir folder name, (programPaths env).find? t.isExecutable = some program ∧
      t.canonicalPlace? program = some (dir ++ [folder, name]) ∧
      resolve? t (.ofNames dir) = some home := by
  obtain ⟨program, hprogram, h⟩ := Option.bind_eq_some_iff.mp h
  obtain ⟨place, hplace, h⟩ := Option.bind_eq_some_iff.mp h
  split at h
  · cases h
  · rename_i hlength
    obtain rfl | ⟨front, name, rfl⟩ := List.eq_nil_or_concat' place
    · exact absurd (by decide) hlength
    obtain rfl | ⟨dir, folder, rfl⟩ := List.eq_nil_or_concat' front
    · exact absurd Nat.one_lt_two hlength
    rw [List.dropLast_concat, List.dropLast_concat] at h
    rw [List.append_assoc] at hplace
    exact ⟨program, dir, folder, name, hprogram, hplace, h⟩

/-- A file that lies as `bin/java` in a directory is the launcher of that directory. -/
theorem locate_launcher_of_reachable {dir : Location} (h : Reachable t (dir ++ ["bin", "java"])) :
    t.locate (Path.ofNames dir).launcher = .ok (dir ++ ["bin", "java"]) := by
  have hdir : Reachable t dir := by simpa using h.dropLast.dropLast
  obtain ⟨links, mid, hfront, hlast⟩ := (h.walks linkLimit).cut
  rw [hfront.unique (hdir.walks linkLimit)] at hlast
  obtain ⟨left, hlast'⟩ := hlast.of_le hfront.left_le
  exact locate_launcher_ofNames hdir hlast'

/-- What is detected is a canonical home with a launcher. The launcher is the one by which the
directory two levels above the program is taken for a home; it is the program that was found if that
lies there as `bin/java` and the directory is no bundle. -/
theorem detect?_launcher (h : detect? t env = some home) :
    home.IsCanonical ∧ t.canonical? home = some home ∧ t.isFile home.launcher = true ∧
      ∃ program dir folder name, (programPaths env).find? t.isExecutable = some program ∧
        t.locate program = .ok (dir ++ [folder, name]) ∧
        t.canonical? home.launcher = t.canonical? (launcherSeen t (.ofNames dir)) ∧
        (folder = "bin" → name = "java" → t.isFile (inBundle (.ofNames dir)).launcher = false →
          t.canonical? home.launcher = t.canonical? program) := by
  obtain ⟨program, dir, folder, name, hprogram, hplace, hresolve⟩ := exists_of_detect? h
  obtain ⟨hlocate, hstart⟩ := canonicalPlace?_eq_some.mp hplace
  have hlauncher := canonical?_launcher_of_resolve? hresolve
  refine ⟨isCanonical_of_resolve? hresolve, canonical?_of_resolve? hresolve,
    isFile_of_resolve? hresolve, program, dir, folder, name, hprogram, hlocate, hlauncher, ?_⟩
  rintro rfl rfl hbundle
  have hown : launcherSeen t (.ofNames dir) = (Path.ofNames dir).launcher := by
    rw [launcherSeen, hbundle, if_neg Bool.false_ne_true]
  have hreachable := reachable_of_locate hlocate hstart
  have hdir : t.canonicalPlace? (Path.ofNames dir).launcher = some (dir ++ ["bin", "java"]) := by
    refine canonicalPlace?_eq_some.mpr ⟨locate_launcher_of_reachable hreachable, ?_⟩
    rw [start_launcher (text_ofNames_ne_empty dir)]
    exact reaches_start_of_isAbsolute (Path.isAbsolute_ofNames dir)
  rw [hlauncher, hown, canonical?, canonical?, hdir, hplace]

/-- A home with a second program in it, and a link to the home's launcher elsewhere. -/
def sharedTree : FileTree where
  entries :=
    [(["jdk"], .directory), (["jdk", "bin"], .directory),
      (["jdk", "bin", "java"], .file { content := [], executable := true }),
      (["jdk", "libexec"], .directory),
      (["jdk", "libexec", "java"], .file { content := [], executable := true }),
      (["usr"], .directory), (["usr", "java"], .link ⟨"/jdk/bin/java"⟩)]
  workingDirectory := ⟨"/"⟩

/-- An environment with nothing but a search path. -/
def searching (directories : String) : Environment :=
  { assignments := [("PATH", directories)] }

theorem find?_linked :
    (programPaths (searching "/opt:/usr")).find? sharedTree.isExecutable = some ⟨"/usr/java"⟩ := by
  decide +kernel

/-- The second directory of the search path has a link to the launcher of a home. -/
theorem detect?_launcher_linked :
    detect? sharedTree (searching "/opt:/usr") = some ⟨"/jdk"⟩ ∧
      sharedTree.canonical? (Path.launcher ⟨"/jdk"⟩) = sharedTree.canonical? ⟨"/usr/java"⟩ := by
  have hdetect : detect? sharedTree (searching "/opt:/usr") = some ⟨"/jdk"⟩ := by decide +kernel
  have hplace : sharedTree.locate ⟨"/usr/java"⟩ = .ok ["jdk", "bin", "java"] := by decide +kernel
  have hbundle : sharedTree.isFile (inBundle ⟨"/jdk"⟩).launcher = false := by decide +kernel
  obtain ⟨-, -, -, program, dir, folder, name, hprogram, hlocate, -, hsame⟩ :=
    detect?_launcher hdetect
  cases find?_linked.symm.trans hprogram
  have hcut : dir ++ [folder, name] = ["jdk"] ++ ["bin", "java"] :=
    Except.ok.inj (hlocate.symm.trans hplace)
  obtain ⟨rfl, hnames⟩ := List.append_inj' hcut rfl
  obtain ⟨rfl, rfl⟩ : folder = "bin" ∧ name = "java" := by simpa using hnames
  exact ⟨hdetect, hsame rfl rfl hbundle⟩

/-- A program in another directory of a home: the home around it is detected, and its launcher is
another file than the program that was found. -/
theorem detect?_unowned :
    (programPaths (searching "/jdk/libexec")).find? sharedTree.isExecutable =
        some ⟨"/jdk/libexec/java"⟩ ∧
      detect? sharedTree (searching "/jdk/libexec") = some ⟨"/jdk"⟩ ∧
      sharedTree.canonical? (Path.launcher ⟨"/jdk"⟩) ≠
        sharedTree.canonical? ⟨"/jdk/libexec/java"⟩ := by
  decide +kernel

end JavaHomes.Home
