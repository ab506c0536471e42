import AuditReport.Proofs.Finding.Groups
import Mathlib.Data.List.Nodup
import Mathlib.Data.List.Perm.Basic
import Mathlib.Tactic.SplitIfs

/-!
# Where the places of findings are put

Every place of a finding has a home: the source that its file index counts out, or the first source
of the result when there is no such one. Grouping puts the copy of a place into the group of its home
and into no other, so that a group holds exactly the copies of the places that are at home in it.
-/
namespace AuditReport

/-- Items shared out by a key come back in full from all keys together. -/
theorem flatMap_filter_perm {α β : Type} [DecidableEq β] (key : α → β) {ks : List β}
    (hks : ks.Nodup) {xs : List α} (hxs : ∀ x ∈ xs, key x ∈ ks) :
    (ks.flatMap fun k => xs.filter fun x => key x = k).Perm xs := by
  induction ks generalizing xs with
  | nil =>
    cases xs with
    | nil => exact List.Perm.nil
    | cons x xs => cases hxs x List.mem_cons_self
  | cons k ks ih =>
    obtain ⟨hk, hks⟩ := List.nodup_cons.mp hks
    have hrest : (ks.flatMap fun l => xs.filter fun x => key x = l) =
        ks.flatMap fun l => (xs.filter fun x => !decide (key x = k)).filter fun x => key x = l := by
      apply List.flatMap_congr
      intro l hl
      rw [List.filter_filter]
      apply List.filter_congr
      intro x _
      have hlk : l ≠ k := fun he => hk (he ▸ hl)
      by_cases hx : key x = l <;> simp [hx, hlk]
    have hother : ∀ x ∈ xs.filter fun x => !decide (key x = k), key x ∈ ks := by
      intro x hx
      obtain ⟨hx, hne⟩ := List.mem_filter.mp hx
      exact (List.mem_cons.mp (hxs x hx)).resolve_left (by simpa using hne)
    rw [List.flatMap_cons, hrest]
    exact ((ih hks hother).append_left _).trans (List.filter_append_perm _ xs)

namespace Finding

/-- Findings, one for each of their locations, and those that have none once without one. -/
def occurrences : List Finding → List (Finding × Option Location)
  | [] => []
  | f :: fs =>
    f.locations.map (fun l => (f, some l)) ++ (if f.locations.isEmpty then [(f, none)] else []) ++
      occurrences fs

variable {fs : List Finding} {f : Finding} {l : Location}

theorem mem_of_mem_occurrences {place : Option Location} (h : (f, place) ∈ occurrences fs) : f ∈ fs := by
  induction fs with
  | nil => cases h
  | cons e fs ih =>
    rw [occurrences, List.mem_append, List.mem_append] at h
    rcases h with (h | h) | h
    · obtain ⟨l, _, heq⟩ := List.mem_map.mp h
      cases heq
      exact List.mem_cons_self
    · split_ifs at h
      · cases List.mem_singleton.mp h
        exact List.mem_cons_self
      · cases h
    · exact List.mem_cons_of_mem e (ih h)

theorem some_mem_occurrences_iff : (f, some l) ∈ occurrences fs ↔ f ∈ fs ∧ l ∈ f.locations := by
  induction fs with
  | nil => simp [occurrences]
  | cons e fs ih =>
    rw [occurrences, List.mem_append, List.mem_append, ih]
    have hnone : ¬ (f, some l) ∈ if e.locations.isEmpty then [(e, none)] else [] := by
      split_ifs <;> simp
    simp only [hnone, or_false, List.mem_map, Prod.mk.injEq, Option.some.injEq, List.mem_cons]
    constructor
    · rintro (⟨m, hm, rfl, rfl⟩ | ⟨hf, hl⟩)
      · exact ⟨Or.inl rfl, hm⟩
      · exact ⟨Or.inr hf, hl⟩
    · rintro ⟨rfl | hf, hl⟩
      · exact Or.inl ⟨l, hl, rfl, rfl⟩
      · exact Or.inr ⟨hf, hl⟩

end Finding

namespace AnalysisResult

theorem placedFindings_eq (r : AnalysisResult) :
    r.placedFindings = Finding.occurrences r.findings := by
  unfold placedFindings
  induction r.findings with
  | nil => rfl
  | cons f fs ih =>
    have hplaces : f.places.map (fun l => (f, l)) = f.locations.map (fun l => (f, some l)) ++
        if f.locations.isEmpty then [(f, none)] else [] := by
      unfold Finding.places
      cases f.locations with
      | nil => rfl
      | cons l ls =>
        rw [List.isEmpty_cons, if_neg Bool.false_ne_true, List.append_nil]
        exact List.map_map
    rw [List.flatMap_cons, ih, hplaces, Finding.occurrences]

def countedIndex : Option Int → Int
  | none => 0
  | some i => if i = -1 then 0 else i

def nameAt? (names : List String) (index : Int) : Option String :=
  if index < 0 then none else names[index.toNat]?

def firstSource (r : AnalysisResult) : String :=
  (r.introduced.map (·.source)).headD unknownSource

/-- The source under which a place is put. -/
def home (r : AnalysisResult) : Option Location → Except Fault String
  | none => .ok r.firstSource
  | some l => (SourceMap.fileIndex l.sourceMap).map fun i =>
    (nameAt? (r.namesFor l) (countedIndex i)).getD r.firstSource

theorem outcome_placingIndex (l : Location) :
    (placingIndex l).outcome = (SourceMap.fileIndex l.sourceMap).map countedIndex := by
  rw [placingIndex, Noted.outcome_bind, Noted.outcome_lift]
  cases SourceMap.fileIndex l.sourceMap with
  | error e => rfl
  | ok i =>
    cases i with
    | none => rfl
    | some i =>
      change (if i = -1 then (do Noted.leave (.noFile l.sourceMap); return 0) else
        (pure i : Noted Int)).outcome = .ok (if i = -1 then 0 else i)
      split_ifs
      · rw [Noted.outcome_bind]
        rfl
      · rfl

theorem groupAt?_eq (groups : List FindingGroup) (names : List String) (index : Int) :
    groupAt? groups names index =
      (nameAt? names index).bind fun s => groups.findIdx? fun g => g.source == s := by
  unfold groupAt? nameAt?
  split_ifs <;> rfl

theorem outcome_groupOf_some (r : AnalysisResult) (groups : List FindingGroup) (l : Location) :
    (r.groupOf groups (some l)).outcome = (SourceMap.fileIndex l.sourceMap).map fun i =>
      ((nameAt? (r.namesFor l) (countedIndex i)).bind fun s =>
        groups.findIdx? fun g => g.source == s).getD 0 := by
  rw [groupOf, Noted.outcome_bind, outcome_placingIndex]
  simp only [← groupAt?_eq]
  cases SourceMap.fileIndex l.sourceMap with
  | error e => rfl
  | ok i =>
    simp only [Except.map, bind, Except.bind]
    cases groupAt? groups (r.namesFor l) (countedIndex i) <;> rfl

theorem mem_of_nameAt? {names : List String} {index : Int} {s : String}
    (h : nameAt? names index = some s) : s ∈ names := by
  unfold nameAt? at h
  split_ifs at h
  exact List.mem_of_getElem? h

/-- Every name that an index can count out is the source of some group. -/
theorem mem_introduced_of_mem_namesFor {r : AnalysisResult} {f : Finding} {l : Location} {s : String}
    (hf : f ∈ r.findings) (hl : l ∈ f.locations) (hs : s ∈ r.namesFor l) :
    s ∈ r.introduced.map (·.source) := by
  have hnamed : s ∈ r.namedSources.map (·.source) := by
    rw [namedSources, List.map_append, List.mem_append]
    unfold namesFor at hs
    split_ifs at hs
    · exact Or.inl (by simpa using hs)
    · right
      apply List.mem_map.mpr
      refine ⟨⟨s, Text.orElse l.kind r.kind, Text.orElse l.format r.format⟩, ?_, rfl⟩
      apply List.mem_flatMap.mpr
      exact ⟨f, hf, List.mem_flatMap.mpr ⟨l, hl, List.mem_map.mpr ⟨s, hs, rfl⟩⟩⟩
  have hne : r.namedSources.isEmpty = false := by
    cases h : r.namedSources with
    | nil => simp [h] at hnamed
    | cons n ns => rfl
  rw [introduced, hne]
  exact hnamed

theorem exists_firstSource {r : AnalysisResult} (hr : r.findings ≠ []) :
    ∃ g, (groupsFor r.introduced)[0]? = some g ∧ g.source = r.firstSource := by
  have hne := groupsFor_introduced_ne_nil hr
  unfold firstSource
  cases hn : r.introduced with
  | nil => exact absurd (by rw [hn]; rfl) hne
  | cons n ns =>
    have hmap := congrArg (fun ss : List String => ss[0]?) (map_source_groupsFor (n :: ns))
    rw [List.map_cons, firstSeen_cons] at hmap
    simp only [List.getElem?_map, List.getElem?_cons_zero, Option.map_eq_some_iff] at hmap
    exact hmap

theorem exists_findIdx_source {groups : List FindingGroup} {s : String}
    (hs : s ∈ groups.map (·.source)) :
    ∃ k g, (groups.findIdx? fun g => g.source == s) = some k ∧ groups[k]? = some g ∧
      g.source = s := by
  obtain ⟨g, hg, rfl⟩ := List.mem_map.mp hs
  have hk := List.findIdx?_eq_some_of_exists (p := fun h : FindingGroup => h.source == g.source)
    ⟨g, hg, beq_self_eq_true _⟩
  obtain ⟨hlt, hsource, _⟩ := List.findIdx?_eq_some_iff_getElem.mp hk
  exact ⟨_, _, hk, List.getElem?_eq_getElem hlt, beq_iff_eq.mp hsource⟩

theorem groupOf_home {r : AnalysisResult} {p : Finding × Option Location}
    (hp : p ∈ Finding.occurrences r.findings) {k : Nat}
    (hk : (r.groupOf (groupsFor r.introduced) p.2).outcome = .ok k) :
    ∃ g, (groupsFor r.introduced)[k]? = some g ∧ r.home p.2 = .ok g.source := by
  obtain ⟨f, place⟩ := p
  have hf := Finding.mem_of_mem_occurrences hp
  obtain ⟨first, hfirst, hsource⟩ := exists_firstSource (List.ne_nil_of_mem hf)
  cases place with
  | none =>
    cases hk
    exact ⟨first, hfirst, by rw [home, hsource]⟩
  | some l =>
    have hl := (Finding.some_mem_occurrences_iff.mp hp).2
    rw [outcome_groupOf_some] at hk
    cases hi : SourceMap.fileIndex l.sourceMap with
    | error e => rw [hi] at hk; cases hk
    | ok i =>
      have hhome : r.home (some l) =
          .ok ((nameAt? (r.namesFor l) (countedIndex i)).getD r.firstSource) := by
        rw [home, hi]
        rfl
      rw [hi] at hk
      rw [hhome, ← Except.ok.inj hk]
      cases hs : nameAt? (r.namesFor l) (countedIndex i) with
      | none =>
        refine ⟨first, ?_, by rw [hsource]; rfl⟩
        simp only [hs]
        exact hfirst
      | some s =>
        have hgroup : s ∈ (groupsFor r.introduced).map (·.source) := by
          rw [map_source_groupsFor, mem_firstSeen]
          exact mem_introduced_of_mem_namesFor hf hl (mem_of_nameAt? hs)
        obtain ⟨j, g, hj, hg, rfl⟩ := exists_findIdx_source hgroup
        refine ⟨g, ?_, rfl⟩
        simp only [hs, Option.bind_some, hj, Option.getD_some, hg]

theorem getElem?_fill (groups : List FindingGroup) (placed : List (Nat × Finding)) (i : Nat) :
    (fill groups placed)[i]? = groups[i]?.map fun g =>
      { g with findings := g.findings ++ (placed.filter fun p => p.1 == i).map (·.2) } := by
  rw [fill, List.getElem?_map, List.getElem?_zipIdx, Option.map_map, Nat.zero_add]
  rfl

theorem map_source_fill (groups : List FindingGroup) (placed : List (Nat × Finding)) :
    (fill groups placed).map (·.source) = groups.map (·.source) := by
  apply List.ext_getElem?
  intro i
  rw [List.getElem?_map, List.getElem?_map, getElem?_fill, Option.map_map]
  rfl

def assign (r : AnalysisResult) (p : Finding × Option Location) : Noted (Nat × Finding) := do
  let g ← r.groupOf (groupsFor r.introduced) p.2
  return (g, p.1.single p.2)

theorem outcome_assign_eq_ok_iff {r : AnalysisResult} {p : Finding × Option Location}
    {x : Nat × Finding} : (r.assign p).outcome = .ok x ↔
      (r.groupOf (groupsFor r.introduced) p.2).outcome = .ok x.1 ∧ x.2 = p.1.single p.2 := by
  rw [assign, Noted.outcome_bind_eq_ok_iff]
  constructor
  · rintro ⟨k, hk, hx⟩
    cases hx
    exact ⟨hk, rfl⟩
  · rintro ⟨hk, hx⟩
    exact ⟨x.1, hk, by rw [← hx]; rfl⟩

theorem outcome_group (r : AnalysisResult) : r.group.outcome =
    (Noted.each r.assign (Finding.occurrences r.findings)).outcome.map (fill (groupsFor r.introduced)) := by
  rw [group, Noted.outcome_bind, outcome_emptyGroups, placedFindings_eq]
  change ((Noted.each r.assign (Finding.occurrences r.findings)) >>= _ : Noted _).outcome = _
  rw [Noted.outcome_bind]
  cases (Noted.each r.assign (Finding.occurrences r.findings)).outcome <;> rfl

theorem outcome_group_eq_ok_iff {r : AnalysisResult} {groups : List FindingGroup} :
    r.group.outcome = .ok groups ↔ ∃ placed,
      (Noted.each r.assign (Finding.occurrences r.findings)).outcome = .ok placed ∧
        groups = fill (groupsFor r.introduced) placed := by
  rw [outcome_group]
  cases (Noted.each r.assign (Finding.occurrences r.findings)).outcome with
  | error e => simp [Except.map]
  | ok placed => simp [Except.map, eq_comm]

theorem map_source_group {r : AnalysisResult} {groups : List FindingGroup}
    (h : r.group.outcome = .ok groups) :
    groups.map (·.source) = firstSeen (r.introduced.map (·.source)) := by
  obtain ⟨placed, _, rfl⟩ := outcome_group_eq_ok_iff.mp h
  rw [map_source_fill, map_source_groupsFor]

theorem nodup_map_source_group {r : AnalysisResult} {groups : List FindingGroup}
    (h : r.group.outcome = .ok groups) : (groups.map (·.source)).Nodup := by
  rw [map_source_group h]
  exact nodup_firstSeen _

/-- A filled group is one of the empty groups with the copies put into it. -/
theorem exists_empty_of_mem_fill {r : AnalysisResult} {placed : List (Nat × Finding)}
    {g : FindingGroup} (hg : g ∈ fill (groupsFor r.introduced) placed) :
    ∃ i e, (groupsFor r.introduced)[i]? = some e ∧ g.source = e.source ∧ g.format = e.format ∧
      g.findings = (placed.filter fun p => p.1 == i).map (·.2) := by
  obtain ⟨i, hi⟩ := List.mem_iff_getElem?.mp hg
  rw [getElem?_fill] at hi
  obtain ⟨e, he, rfl⟩ := Option.map_eq_some_iff.mp hi
  have hempty := (mem_groupsFor (List.mem_of_getElem? he)).2.2.2
  exact ⟨i, e, he, rfl, rfl, by simp only [hempty, List.nil_append]⟩

/-- A group has the format with which its source is first named. -/
theorem format_of_mem_group {r : AnalysisResult} {groups : List FindingGroup}
    (h : r.group.outcome = .ok groups) {g : FindingGroup} (hg : g ∈ groups) :
    g.format = (firstNaming r.introduced g.source).format := by
  obtain ⟨placed, _, rfl⟩ := outcome_group_eq_ok_iff.mp h
  obtain ⟨i, e, he, hsource, hformat, _⟩ := exists_empty_of_mem_fill hg
  rw [hformat, hsource]
  exact (mem_groupsFor (List.mem_of_getElem? he)).2.2.1

def placesIn (r : AnalysisResult) (source : String) : List (Finding × Option Location) :=
  (Finding.occurrences r.findings).filter fun p => r.home p.2 = .ok source

theorem mem_placesIn {r : AnalysisResult} {s : String} {p : Finding × Option Location} :
    p ∈ r.placesIn s ↔ p ∈ Finding.occurrences r.findings ∧ r.home p.2 = .ok s := by
  rw [placesIn, List.mem_filter, decide_eq_true_iff]

/-- A group holds the copies of the places that are at home in it, in order, and nothing else. -/
theorem findings_group {r : AnalysisResult} {groups : List FindingGroup}
    (h : r.group.outcome = .ok groups) {g : FindingGroup} (hg : g ∈ groups) :
    g.findings = (r.placesIn g.source).map fun p => p.1.single p.2 := by
  obtain ⟨placed, hplaced, rfl⟩ := outcome_group_eq_ok_iff.mp h
  obtain ⟨i, e, he, hsource, _, hfindings⟩ := exists_empty_of_mem_fill hg
  rw [hfindings, hsource, placesIn, ← List.filterMap_eq_map, ← List.filterMap_eq_map,
    List.filterMap_filter, List.filterMap_filter]
  apply Noted.filterMap_each hplaced
  intro p hp x hx
  obtain ⟨hk, hcopy⟩ := outcome_assign_eq_ok_iff.mp hx
  obtain ⟨e', he', hhome⟩ := groupOf_home hp hk
  have hiff : x.1 = i ↔ r.home p.2 = .ok e.source := by
    rw [hhome, Except.ok.injEq]
    constructor
    · intro hi
      rw [hi, he] at he'
      exact congrArg (·.source) (Option.some.inj he').symm
    · exact groupsFor_inj he' he
  by_cases hi : x.1 = i
  · simp [hi, hiff.mp hi, hcopy]
  · simp [hi, mt hiff.mpr hi]

theorem mem_findings_group {r : AnalysisResult} {groups : List FindingGroup}
    (h : r.group.outcome = .ok groups) {g : FindingGroup} (hg : g ∈ groups) {c : Finding} :
    c ∈ g.findings ↔ ∃ p ∈ Finding.occurrences r.findings, c = p.1.single p.2 ∧ r.home p.2 = .ok g.source := by
  rw [findings_group h hg, List.mem_map]
  constructor
  · rintro ⟨p, hp, rfl⟩
    obtain ⟨hp, hhome⟩ := mem_placesIn.mp hp
    exact ⟨p, hp, rfl, hhome⟩
  · rintro ⟨p, hp, rfl, hhome⟩
    exact ⟨p, mem_placesIn.mpr ⟨hp, hhome⟩, rfl⟩

/-- A place whose copy is in a group is at home there. -/
theorem home_of_single_mem {r : AnalysisResult} {groups : List FindingGroup}
    (h : r.group.outcome = .ok groups) {g : FindingGroup} (hg : g ∈ groups)
    {p : Finding × Option Location} (hc : p.1.single p.2 ∈ g.findings) :
    r.home p.2 = .ok g.source := by
  obtain ⟨q, _, hcopy, hhome⟩ := (mem_findings_group h hg).mp hc
  -- Equal copies have the same location, so they are at home in the same source.
  have hplace : p.2 = q.2 := by
    have hlist : p.2.toList = q.2.toList := congrArg Finding.locations hcopy
    rw [← Option.head?_toList (o := p.2), hlist, Option.head?_toList]
  rw [hplace, hhome]

theorem exists_home {r : AnalysisResult} {groups : List FindingGroup}
    (h : r.group.outcome = .ok groups) {p : Finding × Option Location}
    (hp : p ∈ Finding.occurrences r.findings) : ∃ g ∈ groups, r.home p.2 = .ok g.source := by
  obtain ⟨placed, hplaced, _⟩ := outcome_group_eq_ok_iff.mp h
  obtain ⟨x, _, hpx⟩ := exists_right_of_forall₂ (Noted.outcome_each_eq_ok_iff.mp hplaced) hp
  obtain ⟨e, he, hhome⟩ := groupOf_home hp (outcome_assign_eq_ok_iff.mp hpx).1
  have hmem : e.source ∈ groups.map (·.source) := by
    rw [map_source_group h, ← map_source_groupsFor]
    exact List.mem_map_of_mem (List.mem_of_getElem? he)
  obtain ⟨g, hg, hs⟩ := List.mem_map.mp hmem
  exact ⟨g, hg, by rw [hhome, hs]⟩

theorem placesIn_group_perm {r : AnalysisResult} {groups : List FindingGroup}
    (h : r.group.outcome = .ok groups) :
    (groups.flatMap fun g => r.placesIn g.source).Perm (Finding.occurrences r.findings) := by
  have hnodup : (groups.map fun g => (.ok g.source : Except Fault String)).Nodup := by
    have hok := (nodup_map_source_group h).map (f := fun s => (.ok s : Except Fault String))
      fun _ _ => Except.ok.inj
    rw [List.map_map] at hok
    exact hok
  have hcover : ∀ p ∈ Finding.occurrences r.findings,
      r.home p.2 ∈ groups.map fun g => (.ok g.source : Except Fault String) := by
    intro p hp
    obtain ⟨g, hg, hhome⟩ := exists_home h hp
    exact List.mem_map.mpr ⟨g, hg, hhome.symm⟩
  have hperm := flatMap_filter_perm (fun p : Finding × Option Location => r.home p.2) hnodup hcover
  rw [List.flatMap_map] at hperm
  exact hperm

end AnalysisResult
end AuditReport
