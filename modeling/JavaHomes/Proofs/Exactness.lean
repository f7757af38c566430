import Mathlib.Data.List.Dedup
import JavaHomes.Proofs.Listing
import JavaHomes.Proofs.Scan

/-!
What a scan holds, exactly. A scan is settled by what leads to each home: the order of roots, of
hints and of directory entries, repetitions, and the names of hints leave no trace in it. Each home
is canonical and has a launcher, and there are no more of them than sources.
-/

namespace JavaHomes

theorem Origin.eq_of_rank_eq {a b : Origin} (h : a.rank = b.rank) : a = b := by
  cases a <;> cases b <;> first | rfl | exact absurd h (by decide)

namespace SearchSpace

variable {t t' : FileTree} {space space' : SearchSpace} {c : Candidate} {home : Path}
  {origin : Origin}

/-! ### A scan is settled by what leads to each home -/

theorem mem_scan (hspace : space.Resolved) :
    c ∈ space.scan t ↔ space.LeadsTo t c.origin c.home ∧
      ∀ origin, space.LeadsTo t origin c.home → origin.rank ≤ c.origin.rank := by
  refine ⟨leadsTo_of_mem_scan hspace, fun ⟨hleads, hstrongest⟩ => ?_⟩
  obtain ⟨d, hd, hhome⟩ := (exists_mem_scan hspace).mpr ⟨_, hleads⟩
  obtain ⟨hdleads, hdstrongest⟩ := leadsTo_of_mem_scan hspace hd
  rw [hhome] at hdleads hdstrongest
  have hrank : d.origin.rank = c.origin.rank :=
    Nat.le_antisymm (hstrongest _ hdleads) (hdstrongest _ hleads)
  have heq : d = c := by
    rw [Candidate.mk.injEq]
    exact ⟨hhome, Origin.eq_of_rank_eq hrank⟩
  exact heq ▸ hd

theorem scan_eq_of_leadsTo (hspace : space.Resolved) (hspace' : space'.Resolved)
    (h : ∀ origin home, space.LeadsTo t origin home ↔ space'.LeadsTo t' origin home) :
    space.scan t = space'.scan t' := by
  have hascending : ∀ (t : FileTree) (space : SearchSpace),
      Sorted.Ascending Candidate.compareHomes (space.scan t) := ascending_scan
  refine (hascending t space).ext (hascending t' space') fun c => ?_
  rw [mem_scan hspace, mem_scan hspace']
  simp only [h]

/-- The same roots and the same hinted paths, in whatever order, however often, and under whatever
names. -/
structure SameSources (space space' : SearchSpace) : Prop where
  roots : ∀ root, root ∈ space.roots ↔ root ∈ space'.roots
  hints : ∀ path, path ∈ space.hints.map Prod.snd ↔ path ∈ space'.hints.map Prod.snd

theorem SameSources.symm (h : space.SameSources space') : space'.SameSources space :=
  ⟨fun root => (h.roots root).symm, fun path => (h.hints path).symm⟩

theorem LeadsTo.transfer (hleads : space.LeadsTo t origin home) (hagrees : t.Agrees t')
    (hsources : space.SameSources space') (hcurrent : space.current = space'.current) :
    space'.LeadsTo t' origin home := by
  cases hleads with
  | @entry root names name _ hroot hnames hname hdirectory hresolve =>
    obtain ⟨names', hnames', hname'⟩ := hagrees.mem_names?_iff.mp ⟨names, hnames, hname⟩
    refine .entry ((hsources.roots root).mp hroot) hnames' hname' ?_ ?_
    · rw [← hagrees.isDirectory_eq]
      exact hdirectory
    · rw [← hagrees.resolve?_eq]
      exact hresolve
  | @hint name path _ hhint hresolve =>
    obtain ⟨⟨name', path'⟩, hhint', rfl⟩ :=
      List.mem_map.mp ((hsources.hints path).mp (List.mem_map_of_mem hhint))
    refine .hint hhint' ?_
    rw [← hagrees.resolve?_eq]
    exact hresolve
  | current h => exact .current (hcurrent ▸ h)

theorem leadsTo_congr (hagrees : t.Agrees t') (hsources : space.SameSources space')
    (hcurrent : space.current = space'.current) :
    space.LeadsTo t origin home ↔ space'.LeadsTo t' origin home :=
  ⟨fun h => h.transfer hagrees hsources hcurrent,
    fun h => h.transfer hagrees.symm hsources.symm hcurrent.symm⟩

/-- The order in which things are listed, repetitions and the names of hints do not matter. -/
theorem scan_congr (hagrees : t.Agrees t') (hsources : space.SameSources space')
    (current : Option Path) :
    (space.withCurrent t current).scan t = (space'.withCurrent t' current).scan t' := by
  refine scan_eq_of_leadsTo (resolved_withCurrent t space current)
    (resolved_withCurrent t' space' current) fun _ _ => ?_
  refine leadsTo_congr hagrees ⟨hsources.roots, hsources.hints⟩ ?_
  have hresolve : Home.resolve? t = Home.resolve? t' := funext hagrees.resolve?_eq
  rw [withCurrent, withCurrent, hresolve]

/-- The roots that can be listed. -/
def readable (t : FileTree) (space : SearchSpace) : SearchSpace :=
  { space with roots := space.roots.filter fun root => (t.names? root).isSome }

/-- A root that cannot be listed leads nowhere. -/
theorem leadsTo_readable :
    (space.readable t).LeadsTo t origin home ↔ space.LeadsTo t origin home := by
  constructor
  · intro h
    cases h with
    | entry hroot hnames hname hdirectory hresolve =>
      exact .entry (List.mem_filter.mp hroot).1 hnames hname hdirectory hresolve
    | hint hhint hresolve => exact .hint hhint hresolve
    | current hcurrent => exact .current hcurrent
  · intro h
    cases h with
    | entry hroot hnames hname hdirectory hresolve =>
      refine .entry (List.mem_filter.mpr ⟨hroot, ?_⟩) hnames hname hdirectory hresolve
      rw [hnames, Option.isSome_some]
    | hint hhint hresolve => exact .hint hhint hresolve
    | current hcurrent => exact .current hcurrent

/-! ### Where the homes come from -/

/-- The subdirectories of the roots that can be listed, each path once. -/
def subdirectories (t : FileTree) (space : SearchSpace) : List Path :=
  (space.roots.flatMap fun root =>
    (((t.names? root).getD []).map root.join).filter t.isDirectory).dedup

theorem mem_subdirectories {p : Path} : p ∈ space.subdirectories t ↔
    ∃ root ∈ space.roots, ∃ names, t.names? root = some names ∧
      ∃ name ∈ names, root.join name = p ∧ t.isDirectory p = true := by
  rw [subdirectories, List.mem_dedup, List.mem_flatMap]
  refine exists_congr fun root => and_congr_right fun _ => ?_
  rw [List.mem_filter, List.mem_map]
  cases t.names? root with
  | none => simp
  | some names =>
    simp only [Option.getD_some, Option.some.injEq, exists_eq_left', ← and_assoc,
      exists_and_right]

theorem leadsTo_searchPath : space.LeadsTo t .searchPath home ↔
    ∃ p ∈ space.subdirectories t, Home.resolve? t p = some home := by
  constructor
  · intro h
    cases h with
    | entry hroot hnames hname hdirectory hresolve =>
      exact ⟨_, mem_subdirectories.mpr ⟨_, hroot, _, hnames, _, hname, rfl, hdirectory⟩, hresolve⟩
  · rintro ⟨p, hp, hresolve⟩
    obtain ⟨root, hroot, names, hnames, name, hname, rfl, hdirectory⟩ := mem_subdirectories.mp hp
    exact .entry hroot hnames hname hdirectory hresolve

theorem leadsTo_environment : space.LeadsTo t .environment home ↔
    ∃ hint ∈ space.hints, Home.resolve? t hint.2 = some home := by
  constructor
  · intro h
    cases h with
    | hint hhint hresolve => exact ⟨_, hhint, hresolve⟩
  · rintro ⟨hint, hhint, hresolve⟩
    exact .hint hhint hresolve

theorem exists_leadsTo : (∃ origin, space.LeadsTo t origin home) ↔
    (∃ p ∈ space.subdirectories t, Home.resolve? t p = some home) ∨
      (∃ hint ∈ space.hints, Home.resolve? t hint.2 = some home) ∨ space.current = some home := by
  rw [← leadsTo_searchPath, ← leadsTo_environment]
  constructor
  · rintro ⟨origin, h⟩
    cases origin with
    | searchPath => exact .inl h
    | environment => exact .inr (.inl h)
    | explicit => cases h
    | current =>
      cases h with
      | current hcurrent => exact .inr (.inr hcurrent)
  · rintro (h | h | h)
    · exact ⟨_, h⟩
    · exact ⟨_, h⟩
    · exact ⟨_, .current h⟩

/-- The reason that a candidate is listed with. -/
theorem origin_of_mem_scan (hspace : space.Resolved) (h : c ∈ space.scan t) :
    c.origin =
      if space.current = some c.home then .current
      else if ∃ hint ∈ space.hints, Home.resolve? t hint.2 = some c.home then .environment
      else .searchPath := by
  obtain ⟨hleads, hstrongest⟩ := leadsTo_of_mem_scan hspace h
  obtain ⟨home, origin⟩ := c
  cases hleads with
  | entry =>
    rw [if_neg, if_neg]
    · rintro ⟨hint, hhint, hresolve⟩
      exact absurd (hstrongest _ (.hint hhint hresolve)) (by simp [Origin.rank])
    · intro hcurrent
      exact absurd (hstrongest _ (.current hcurrent)) (by simp [Origin.rank])
  | hint hhint hresolve =>
    rw [if_neg, if_pos ⟨_, hhint, hresolve⟩]
    intro hcurrent
    exact absurd (hstrongest _ (.current hcurrent)) (by simp [Origin.rank])
  | current hcurrent => rw [if_pos hcurrent]

/-- Around a resolved current home, every home is what some path resolves to. -/
theorem exists_resolve?_of_mem_scan {current : Option Path}
    (h : c ∈ (space.withCurrent t current).scan t) : ∃ p, Home.resolve? t p = some c.home := by
  obtain ⟨hleads, -⟩ := leadsTo_of_mem_scan (resolved_withCurrent t space current) h
  rcases exists_leadsTo.mp ⟨_, hleads⟩ with ⟨p, -, hp⟩ | ⟨hint, -, hp⟩ | hcurrent
  · exact ⟨p, hp⟩
  · exact ⟨hint.2, hp⟩
  · obtain ⟨p, -, hp⟩ := Option.bind_eq_some_iff.mp hcurrent
    exact ⟨p, hp⟩

/-- There are no more homes than sources. -/
theorem length_scan_le (hspace : space.Resolved) :
    (space.scan t).length ≤ (space.subdirectories t).length + space.hints.length + 1 := by
  have hnodup : ((space.scan t).map Candidate.home).Nodup := by
    rw [List.Nodup, List.pairwise_map]
    refine (distinct_scan t space).imp fun {a b} hne heq => hne ?_
    rw [heq]
    exact Path.same_self _
  have hsubset : (space.scan t).map Candidate.home ⊆
      (space.subdirectories t).filterMap (Home.resolve? t) ++
        space.hints.filterMap (fun hint => Home.resolve? t hint.2) ++ space.current.toList := by
    intro home hhome
    rw [List.mem_map] at hhome
    rw [List.mem_append, List.mem_append, List.mem_filterMap, List.mem_filterMap,
      Option.mem_toList, or_assoc]
    exact exists_leadsTo.mp ((exists_mem_scan hspace).mp hhome)
  have hlength := hnodup.length_le_of_subset hsubset
  have hroots : ((space.subdirectories t).filterMap (Home.resolve? t)).length ≤ _ :=
    List.length_filterMap_le ..
  have hhints : (space.hints.filterMap fun hint => Home.resolve? t hint.2).length ≤ _ :=
    List.length_filterMap_le ..
  have hcurrent : space.current.toList.length ≤ 1 := by
    cases space.current <;> simp
  simp only [List.length_map, List.length_append] at hlength
  omega

/-- A scan, exactly: it ascends strictly and holds just the homes that a subdirectory of a readable
root, a hint or the host leads to. Each of them is canonical, has a launcher, and is listed with the
strongest reason for it. The order of listing anything, repetitions, the names of hints and roots
that cannot be read make no difference, and there are no more homes than sources. -/
theorem scan_exact (t : FileTree) (sources : SearchSpace) (current : Option Path) :
    let space := sources.withCurrent t current
    (space.scan t).Pairwise (fun a b => a.home.compare b.home = .lt) ∧
    (∀ home, (∃ c ∈ space.scan t, c.home = home) ↔
      (∃ p ∈ sources.subdirectories t, Home.resolve? t p = some home) ∨
        (∃ hint ∈ sources.hints, Home.resolve? t hint.2 = some home) ∨
        current.bind (Home.resolve? t) = some home) ∧
    (∀ c ∈ space.scan t,
      t.canonical? c.home = some c.home ∧ t.isFile c.home.launcher = true ∧
      c.origin =
        if current.bind (Home.resolve? t) = some c.home then .current
        else if ∃ hint ∈ sources.hints, Home.resolve? t hint.2 = some c.home then .environment
        else .searchPath) ∧
    (∀ t' sources', t.Agrees t' → sources.SameSources sources' →
      (sources'.withCurrent t' current).scan t' = space.scan t) ∧
    ((sources.readable t).withCurrent t current).scan t = space.scan t ∧
    (space.scan t).length ≤ (sources.subdirectories t).length + sources.hints.length + 1 := by
  intro space
  have hspace : space.Resolved := resolved_withCurrent t sources current
  refine ⟨ascending_scan t space, fun home => ?_, fun c hc => ?_,
    fun t' sources' hagrees hsources => ?_, ?_, length_scan_le hspace⟩
  · exact (exists_mem_scan hspace).trans exists_leadsTo
  · obtain ⟨p, hp⟩ := exists_resolve?_of_mem_scan hc
    exact ⟨Home.canonical?_of_resolve? hp, Home.isFile_of_resolve? hp, origin_of_mem_scan hspace hc⟩
  · exact (scan_congr hagrees hsources current).symm
  · have hreadable : (sources.readable t).withCurrent t current = space.readable t := rfl
    rw [hreadable]
    exact scan_eq_of_leadsTo hspace hspace fun _ _ => leadsTo_readable

/-- The entries the other way round, one root twice, and the hints in another order under other
names. -/
theorem scan_exact_relisted :
    let t : FileTree :=
      ⟨[(["jvm"], .directory), (["jvm", "a"], .directory), (["jvm", "b"], .link ⟨"a"⟩)], ⟨"/"⟩⟩
    let t' : FileTree := ⟨t.entries.reverse, ⟨"/"⟩⟩
    let sources : SearchSpace := ⟨[⟨"/jvm"⟩], [("X", ⟨"/jvm/a"⟩), ("Y", ⟨"/jvm/b"⟩)], none⟩
    let sources' : SearchSpace :=
      ⟨[⟨"/jvm"⟩, ⟨"/jvm"⟩], [("Z", ⟨"/jvm/b"⟩), ("Y", ⟨"/jvm/a"⟩)], none⟩
    t.Agrees t' ∧ sources.SameSources sources' ∧
      (sources'.withCurrent t' none).scan t' = (sources.withCurrent t none).scan t := by
  intro t t' sources sources'
  have hagrees : t.Agrees t' :=
    FileTree.agrees_of_perm (by decide) t.entries.reverse_perm.symm rfl
  have hsources : sources.SameSources sources' :=
    ⟨fun root => by simp [sources, sources'], fun path => by simp [sources, sources', or_comm]⟩
  obtain ⟨-, -, -, hsame, -⟩ := scan_exact t sources none
  exact ⟨hagrees, hsources, hsame t' sources' hagrees hsources⟩

end SearchSpace

end JavaHomes
