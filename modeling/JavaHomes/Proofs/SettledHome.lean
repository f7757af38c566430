import JavaHomes.Proofs.Override
import JavaHomes.Proofs.Resolution

/-!
Resolving a home again. What a path resolves to is a home, so it does resolve; but it may hold a
bundle of its own, and a path to a bundle means the home inside it. A home stays the same when it is
resolved again exactly if there is no such bundle, or the bundle leads back to the home. The same
condition decides whether a listed home can be handed back as an explicit home or as a hint, and
whether the detected home is the one that becomes the current home.
-/

namespace JavaHomes

namespace FileTree

variable {t : FileTree} {links left : Nat} {place last : Location} {piece : String}
  {rest : List String}

/-- Something stands where a name leads to. -/
theorem Walks.entry?_ne_none (h : t.Walks links place (piece :: rest) left last) (hne : piece ≠ "")
    (hdot : piece ≠ ".") (hdots : piece ≠ "..") : t.entry? (place ++ [piece]) ≠ none := by
  cases h with
  | stay _ hstay _ => exact absurd hstay (not_or.mpr ⟨hne, hdot⟩)
  | up => exact absurd rfl hdots
  | inside _ hentry _ _ =>
    rw [hentry]
    exact Option.some_ne_none _
  | follow _ hentry _ =>
    rw [hentry]
    exact Option.some_ne_none _

end FileTree

namespace Home

open JavaHomes.FileTree

variable {t : FileTree} {p home : Path}

/-- If there is a home in the bundle of a home, the bundle leads back to the home itself. -/
def Settled (t : FileTree) (home : Path) : Prop :=
  t.isFile (inBundle home).launcher = true → t.canonical? (inBundle home) = some home

/-- A home is settled if nothing in it is called as bundles are. -/
theorem settled_of_entry?_eq_none {place : Location} (hplace : Reachable t place)
    (h : t.entry? (place ++ ["Contents"]) = none) : Settled t (.ofNames place) := by
  -- the way to the launcher in the bundle comes by the home, and looks its first name up there
  intro hfile
  obtain ⟨last, file, hlast, -⟩ := isFile_iff.mp hfile
  obtain ⟨-, -, left, hlauncher⟩ := locate_eq_ok_iff.mp hlast
  obtain ⟨links, bundle, hbundle, -⟩ :=
    (walks_launcher (text_join_ne_empty (by decide))).mp hlauncher
  obtain ⟨links', mid, hmid, hcontents⟩ :=
    (walks_join (text_ofNames_ne_empty place) (by decide)).mp hbundle
  have hsame : mid = place := by
    rw [start, if_pos (Path.isAbsolute_ofNames place)] at hmid
    exact hmid.unique (walks_ofNames hplace linkLimit)
  have hpieces : (⟨"Contents/Home"⟩ : Path).pieces = ["Contents", "Home"] := by decide
  rw [hpieces, hsame] at hcontents
  exact absurd h (hcontents.entry?_ne_none (by decide) (by decide) (by decide))

/-- What a path resolves to resolves to the home in its own bundle, or else to itself. -/
theorem resolve?_eq_of_resolve? (h : resolve? t p = some home) :
    resolve? t home =
      if t.isFile (inBundle home).launcher then t.canonical? (inBundle home) else some home := by
  rw [resolve?, if_pos (isFile_of_resolve? h), canonical?_of_resolve? h]

theorem resolve?_eq_self_iff (h : resolve? t p = some home) :
    resolve? t home = some home ↔ Settled t home := by
  rw [resolve?_eq_of_resolve? h, Settled]
  split
  · rename_i hbundle
    exact ⟨fun hself _ => hself, fun hself => hself hbundle⟩
  · rename_i hbundle
    exact ⟨fun _ hfile => absurd hfile hbundle, fun _ => rfl⟩

theorem exists_resolve?_of_resolve? (h : resolve? t p = some home) :
    ∃ next, resolve? t home = some next := by
  have hnameable : Nameable t home := by
    obtain ⟨names, -, rfl⟩ := isCanonical_of_resolve? h
    exact nameable_of_reaches (text_ofNames_ne_empty names)
      (reaches_start_of_isAbsolute (Path.isAbsolute_ofNames names))
  cases hnext : resolve? t home with
  | none =>
    have hfile := isFile_launcher_of_resolve?_eq_none hnext hnameable
    cases hfile.symm.trans (isFile_of_resolve? h)
  | some next => exact ⟨next, rfl⟩

/-- The only hint of a search for homes leads to one candidate. -/
theorem scan_hint (name : String) (h : resolve? t p = some home) :
    SearchSpace.scan t ⟨[], [(name, p)], none⟩ = [⟨home, .environment⟩] := by
  have hsightings : SearchSpace.sightings t ⟨[], [(name, p)], none⟩ = [⟨home, .environment⟩] := by
    simp [SearchSpace.sightings, h]
  rw [SearchSpace.scan, hsightings]
  rfl

/-- A home that is found on the search path is resolved once more before it is the current home. -/
theorem current_searchSpace {env : Environment} {c : Config} (hunset : c.currentHome = none)
    (hdetects : c.detectsCurrent = true) (h : detect? t env = some home) :
    (c.searchSpace t env).current = resolve? t home := by
  rw [Config.searchSpace, SearchSpace.withCurrent, hunset, hdetects, if_pos rfl, h]
  rfl

/-- What a path resolves to resolves to a home again, its canonical path being taken to be short
enough for the system as all paths are, and to itself exactly if it is settled. So settled homes,
and no others, stay what they are when they are handed back as an explicit home or as a hint, or
when they are detected and then taken for the current home. -/
theorem resolve?_resolved (h : resolve? t p = some home) :
    (∃ next, resolve? t home = some next ∧ (next = home ↔ Settled t home) ∧
      (¬ Settled t home → t.canonical? (inBundle home) = some next)) ∧
    (∀ r : Registry, (r.explicitCandidate t home).home = home ↔ Settled t home) ∧
    (∀ name, SearchSpace.scan t ⟨[], [(name, home)], none⟩ = [⟨home, .environment⟩] ↔
      Settled t home) ∧
    ∀ (env : Environment) (c : Config), c.currentHome = none → c.detectsCurrent = true →
      detect? t env = some home → ((c.searchSpace t env).current = some home ↔ Settled t home) := by
  obtain ⟨next, hnext⟩ := exists_resolve?_of_resolve? h
  have hself : next = home ↔ Settled t home := by
    rw [← resolve?_eq_self_iff h, hnext, Option.some.injEq]
  refine ⟨⟨next, hnext, hself, fun hunsettled => ?_⟩, fun r => ?_, fun name => ?_, ?_⟩
  · have hbundle : t.isFile (inBundle home).launcher = true := by
      by_contra hno
      exact hunsettled fun hfile => absurd hfile hno
    rw [← hnext, resolve?_eq_of_resolve? h, if_pos hbundle]
  · rw [Registry.home_explicitCandidate hnext, hself]
  · rw [scan_hint name hnext, ← hself]
    simp
  · intro env c hunset hdetects hdetect
    rw [current_searchSpace hunset hdetects hdetect, resolve?_eq_self_iff h]

/-- A bundle whose home is a bundle again. -/
def nestedTree : FileTree where
  entries :=
    [(["jdk"], .directory), (["jdk", "Contents"], .directory),
      (["jdk", "Contents", "Home"], .directory),
      (["jdk", "Contents", "Home", "bin"], .directory),
      (["jdk", "Contents", "Home", "bin", "java"], .file { content := [], executable := true }),
      (["jdk", "Contents", "Home", "Contents"], .directory),
      (["jdk", "Contents", "Home", "Contents", "Home"], .directory),
      (["jdk", "Contents", "Home", "Contents", "Home", "bin"], .directory),
      (["jdk", "Contents", "Home", "Contents", "Home", "bin", "java"],
        .file { content := [], executable := true })]
  workingDirectory := ⟨"/"⟩

theorem resolve?_inner :
    resolve? nestedTree ⟨"/jdk/Contents/Home"⟩ = some ⟨"/jdk/Contents/Home/Contents/Home"⟩ := by
  decide +kernel

/-- Nothing lies deeper than the home in the inner bundle, so that home is settled. -/
theorem resolve?_resolved_inner :
    resolve? nestedTree ⟨"/jdk/Contents/Home"⟩ = some ⟨"/jdk/Contents/Home/Contents/Home"⟩ ∧
      Settled nestedTree ⟨"/jdk/Contents/Home/Contents/Home"⟩ ∧
      resolve? nestedTree ⟨"/jdk/Contents/Home/Contents/Home"⟩ =
        some ⟨"/jdk/Contents/Home/Contents/Home"⟩ := by
  have hplace : nestedTree.locate ⟨"/jdk/Contents/Home/Contents/Home"⟩ =
      .ok ["jdk", "Contents", "Home", "Contents", "Home"] := by decide +kernel
  have hreachable := reachable_of_locate hplace (reaches_start_of_isAbsolute (by decide))
  have hsettled := settled_of_entry?_eq_none hreachable rfl
  obtain ⟨⟨next, hnext, hself, -⟩, -⟩ := resolve?_resolved resolve?_inner
  obtain rfl := hself.mpr hsettled
  exact ⟨resolve?_inner, hsettled, hnext⟩

/-- The home in the outer bundle holds a bundle: it is a home that a path resolves to, but resolves
to another home itself. -/
theorem resolve?_unsettled :
    resolve? nestedTree ⟨"/jdk"⟩ = some ⟨"/jdk/Contents/Home"⟩ ∧
      resolve? nestedTree ⟨"/jdk/Contents/Home"⟩ ≠ some ⟨"/jdk/Contents/Home"⟩ := by
  decide +kernel

end Home

end JavaHomes
