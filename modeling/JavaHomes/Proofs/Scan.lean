import JavaHomes.Proofs.Canonical
import JavaHomes.Proofs.Sorted
import JavaHomes.Scan

/-!
What a scan leads to. Its candidates stand in ascending order, each home once. When the current home
has been resolved, all homes are canonical, and then the scan holds exactly the homes that a root, a
hint or the host leads to, each with the strongest reason there is for it.
-/

namespace JavaHomes

open Std

theorem Origin.rank_strongest (a b : Origin) : (a.strongest b).rank = max a.rank b.rank := by
  cases a <;> cases b <;> rfl

theorem Origin.strongest_eq (a b : Origin) : a.strongest b = a ∨ a.strongest b = b := by
  cases a <;> cases b <;> decide

namespace Candidate

theorem keepsKey_merge : Sorted.KeepsKey compareHomes merge :=
  fun _ _ _ => rfl

/-- Merging keeps the home of the first candidate and gives it the strongest of the reasons. -/
theorem foldl_merge : ∀ (first : Candidate) (rest : List Candidate),
    (rest.foldl merge first).home = first.home ∧
    (∃ c ∈ first :: rest, c.origin = (rest.foldl merge first).origin) ∧
    ∀ c ∈ first :: rest, c.origin.rank ≤ (rest.foldl merge first).origin.rank
  | first, [] => by simp
  | first, second :: rest => by
    obtain ⟨hhome, ⟨c, hc, horigin⟩, hbound⟩ := foldl_merge (first.merge second) rest
    have hrank : (first.merge second).origin.rank = max first.origin.rank second.origin.rank :=
      Origin.rank_strongest ..
    have hmerged := hbound _ List.mem_cons_self
    refine ⟨hhome, ?_, fun d hd => ?_⟩
    · rcases List.mem_cons.mp hc with rfl | hrest
      · rcases Origin.strongest_eq first.origin second.origin with heq | heq
        · exact ⟨first, by simp, heq.symm.trans horigin⟩
        · exact ⟨second, by simp, heq.symm.trans horigin⟩
      · exact ⟨c, by simp [hrest], horigin⟩
    · rw [List.foldl_cons]
      rcases List.mem_cons.mp hd with rfl | hd
      · omega
      · rcases List.mem_cons.mp hd with rfl | hrest
        · omega
        · exact hbound d (List.mem_cons_of_mem _ hrest)

end Candidate

namespace SearchSpace

open JavaHomes.Path

variable {t : FileTree} {space : SearchSpace} {c : Candidate} {home : Path}

/-- The ways to a home: a subdirectory of a root that can be listed, a hint, or the host itself. -/
inductive LeadsTo (t : FileTree) (space : SearchSpace) : Origin → Path → Prop
  | entry {root : Path} {names : List String} {name : String} {home : Path} :
      root ∈ space.roots → t.names? root = some names → name ∈ names →
      t.isDirectory (root.join name) = true → Home.resolve? t (root.join name) = some home →
      LeadsTo t space .searchPath home
  | hint {name : String} {path home : Path} : (name, path) ∈ space.hints →
      Home.resolve? t path = some home → LeadsTo t space .environment home
  | current {home : Path} : space.current = some home → LeadsTo t space .current home

/-- The current home, if there is one, has been resolved. -/
def Resolved (space : SearchSpace) : Prop :=
  ∀ home, space.current = some home → home.IsCanonical

theorem resolved_withCurrent (t : FileTree) (space : SearchSpace) (current : Option Path) :
    (space.withCurrent t current).Resolved := by
  intro home h
  obtain ⟨path, -, hresolve⟩ := Option.bind_eq_some_iff.mp h
  exact Home.isCanonical_of_resolve? hresolve

theorem LeadsTo.isCanonical (hspace : space.Resolved) {origin : Origin}
    (h : space.LeadsTo t origin home) : home.IsCanonical := by
  cases h with
  | entry _ _ _ _ hresolve => exact Home.isCanonical_of_resolve? hresolve
  | hint _ hresolve => exact Home.isCanonical_of_resolve? hresolve
  | current hcurrent => exact hspace home hcurrent

theorem mem_homesIn {root : Path} :
    home ∈ homesIn t root ↔ ∃ names, t.names? root = some names ∧ ∃ name ∈ names,
      t.isDirectory (root.join name) = true ∧ Home.resolve? t (root.join name) = some home := by
  rw [homesIn, List.mem_filterMap]
  cases t.names? root with
  | none => simp
  | some names => simp

theorem mem_sightings : c ∈ space.sightings t ↔ space.LeadsTo t c.origin c.home := by
  obtain ⟨home, origin⟩ := c
  rw [sightings, List.mem_append, List.mem_append]
  constructor
  · rintro ((hroot | hhint) | hcurrent)
    · obtain ⟨_, hmem, heq⟩ := List.mem_map.mp hroot
      cases heq
      obtain ⟨root, hroot, hhome⟩ := List.mem_flatMap.mp hmem
      obtain ⟨names, hnames, name, hname, hdirectory, hresolve⟩ := mem_homesIn.mp hhome
      exact .entry hroot hnames hname hdirectory hresolve
    · obtain ⟨_, hmem, heq⟩ := List.mem_map.mp hhint
      cases heq
      obtain ⟨hint, hhint, hresolve⟩ := List.mem_filterMap.mp hmem
      exact .hint hhint hresolve
    · obtain ⟨_, hmem, heq⟩ := List.mem_map.mp hcurrent
      cases heq
      exact .current (Option.mem_toList.mp hmem)
  · intro h
    cases h with
    | entry hroot hnames hname hdirectory hresolve =>
      refine .inl (.inl (List.mem_map_of_mem (List.mem_flatMap.mpr ⟨_, hroot, ?_⟩)))
      exact mem_homesIn.mpr ⟨_, hnames, _, hname, hdirectory, hresolve⟩
    | hint hhint hresolve =>
      exact .inl (.inr (List.mem_map_of_mem (List.mem_filterMap.mpr ⟨_, hhint, hresolve⟩)))
    | current hcurrent =>
      exact .inr (List.mem_map_of_mem (Option.mem_toList.mpr hcurrent))

theorem ascending_scan (t : FileTree) (space : SearchSpace) :
    (space.scan t).Pairwise fun a b => a.home.compare b.home = .lt :=
  Sorted.ascending_ofList Candidate.keepsKey_merge _

/-- No two candidates of a scan have the same home. -/
theorem distinct_scan (t : FileTree) (space : SearchSpace) :
    (space.scan t).Pairwise fun a b => ¬ a.home.same b.home :=
  (ascending_scan t space).imp Path.not_same_of_lt

/-- What was seen with a canonical home is everything that leads to that very home. -/
theorem mem_group_sightings (hspace : space.Resolved) (hc : c.home.IsCanonical) {x : Candidate} :
    x ∈ Sorted.group Candidate.compareHomes c (space.sightings t) ↔
      space.LeadsTo t x.origin x.home ∧ x.home = c.home := by
  rw [Sorted.mem_group, mem_sightings]
  refine and_congr_right fun hx => ⟨(hx.isCanonical hspace).eq_of_compare hc, fun heq => ?_⟩
  rw [Candidate.compareHomes, heq]
  exact ReflCmp.compare_self

/-- What stands in a scan is a home with the strongest of the reasons for it. -/
theorem leadsTo_of_mem_scan (hspace : space.Resolved) (h : c ∈ space.scan t) :
    space.LeadsTo t c.origin c.home ∧
      ∀ origin, space.LeadsTo t origin c.home → origin.rank ≤ c.origin.rank := by
  rw [scan, Sorted.mem_ofList Candidate.keepsKey_merge] at h
  have hgroup : ∀ x, x ∈ Sorted.group Candidate.compareHomes c (space.sightings t) →
      space.LeadsTo t x.origin x.home :=
    fun x hx => mem_sightings.mp (Sorted.mem_group.mp hx).1
  match heq : Sorted.group Candidate.compareHomes c (space.sightings t) with
  | [] =>
    rw [heq] at h
    cases h
  | first :: rest =>
    obtain ⟨hhome, ⟨d, hd, horigin⟩, hbound⟩ := Candidate.foldl_merge first rest
    rw [heq, Sorted.combined?, Option.some.injEq] at h
    rw [h] at hhome horigin hbound
    rw [← heq] at hd hbound
    -- the home is that of the first sighting, so it is canonical and all in the group have it
    have hc : c.home.IsCanonical := by
      rw [hhome]
      exact (hgroup first (heq ▸ List.mem_cons_self)).isCanonical hspace
    obtain ⟨hleads, hdhome⟩ := (mem_group_sightings hspace hc).mp hd
    refine ⟨horigin ▸ hdhome ▸ hleads, fun origin hother => ?_⟩
    exact hbound ⟨c.home, origin⟩ ((mem_group_sightings hspace hc).mpr ⟨hother, rfl⟩)

/-- Every home that the search space leads to stands in the scan. -/
theorem exists_mem_scan (hspace : space.Resolved) :
    (∃ c ∈ space.scan t, c.home = home) ↔ ∃ origin, space.LeadsTo t origin home := by
  constructor
  · rintro ⟨c, hc, rfl⟩
    exact ⟨c.origin, (leadsTo_of_mem_scan hspace hc).1⟩
  · rintro ⟨origin, h⟩
    have hsight : (⟨home, origin⟩ : Candidate) ∈ space.sightings t := mem_sightings.mpr h
    obtain ⟨c, hc, hkey⟩ := (Sorted.exists_mem_ofList Candidate.keepsKey_merge ⟨home, origin⟩ _).mpr
      ⟨_, hsight, ReflCmp.compare_self⟩
    refine ⟨c, hc, IsCanonical.eq_of_compare ?_ (h.isCanonical hspace) hkey⟩
    exact (leadsTo_of_mem_scan hspace hc).1.isCanonical hspace

/-- A candidate is marked as the current home exactly when it is. -/
theorem isCurrent_of_mem_scan (hspace : space.Resolved) (h : c ∈ space.scan t) :
    c.isCurrent = true ↔ space.current = some c.home := by
  obtain ⟨hleads, hstrongest⟩ := leadsTo_of_mem_scan hspace h
  rw [Candidate.isCurrent, beq_iff_eq]
  constructor
  · intro horigin
    rw [horigin] at hleads
    cases hleads with
    | current hcurrent => exact hcurrent
  · intro hcurrent
    have hrank := hstrongest .current (.current hcurrent)
    generalize c.origin = origin at hrank
    cases origin <;> first | rfl | exact absurd hrank (by decide)

end SearchSpace

end JavaHomes
