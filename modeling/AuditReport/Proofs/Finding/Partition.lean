import AuditReport.Proofs.Finding.Placement
import AuditReport.Proofs.SourceMap.ThirdField

/-!
# Grouping shares out the places of findings

Grouping fails only on a location whose file index is no integer. Otherwise it gives one group for each
source that is named, in the order of first naming, and shares out the places of all findings: each of
them has a copy in one group, and the copies in a group stand in the order of the places.
-/
namespace AuditReport

/-- A copy differs from the finding in its locations, and in an id and a title that are not given. -/
structure Finding.IsCopy (f : Finding) (place : Option Location) (c : Finding) : Prop where
  locations : c.locations = place.toList
  swcId : c.swcId = if f.swcId = none ∨ f.swcId = some "" then some "N/A" else f.swcId
  swcTitle : c.swcTitle = if f.swcTitle = none ∨ f.swcTitle = some "" then some "N/A" else f.swcTitle
  rest : c = { f with swcId := c.swcId, swcTitle := c.swcTitle, locations := c.locations }

theorem Text.some_orDefault (s : Option String) (default : String) :
    some (Text.orDefault s default) = if s = none ∨ s = some "" then some default else s := by
  unfold Text.orDefault
  cases s with
  | none => simp
  | some t => by_cases ht : t = "" <;> simp [ht]

theorem Finding.isCopy_single (f : Finding) (place : Option Location) :
    f.IsCopy place (f.single place) :=
  ⟨rfl, Text.some_orDefault f.swcId missingId, Text.some_orDefault f.swcTitle missingId, rfl⟩

namespace AnalysisResult

def names (r : AnalysisResult) : List String :=
  r.sources ++ r.findings.flatMap fun f => f.locations.flatMap (·.sources)

/-- The names that get groups. Findings without any named source get a single one. -/
def groupNames (r : AnalysisResult) : List String :=
  if r.names = [] ∧ r.findings ≠ [] then
    [match r.source with
      | none | some "" => "unknown"
      | some s => s]
  else r.names

structure SharedOut (r : AnalysisResult) (groups : List FindingGroup) : Prop where
  nodup : (groups.map (·.source)).Nodup
  mem_sources : ∀ s, s ∈ groups.map (·.source) ↔ s ∈ r.groupNames
  ordered : (groups.map (·.source)).Pairwise fun s t =>
    r.groupNames.idxOf s < r.groupNames.idxOf t
  indexed : ∀ (i : Nat) g, groups[i]? = some g → g.index = i
  /-- Every place has one position, of a group that is there, and each group has just the copies of
  the places of its position, in order. Findings without locations are in the first one. -/
  placed : ∃ position : Option Location → Nat, position none = 0 ∧
    (∀ p ∈ Finding.occurrences r.findings, position p.2 < groups.length) ∧
    ∀ (i : Nat) g, groups[i]? = some g →
      List.Forall₂ (fun p c => p.1.IsCopy p.2 c)
        ((Finding.occurrences r.findings).filter fun p => position p.2 = i) g.findings

theorem map_source_namedSources (r : AnalysisResult) :
    r.namedSources.map (·.source) = r.names := by
  simp [namedSources, names, List.map_flatMap, Function.comp_def]

theorem map_source_introduced (r : AnalysisResult) :
    r.introduced.map (·.source) = r.groupNames := by
  have hempty : r.namedSources.isEmpty = true ↔ r.names = [] := by
    rw [← map_source_namedSources, List.map_eq_nil_iff, List.isEmpty_iff]
  have hfallback : Text.orDefault r.source unknownSource =
      match r.source with
      | none | some "" => "unknown"
      | some s => s := by
    unfold Text.orDefault
    cases r.source with
    | none => rfl
    | some s => by_cases hs : s = "" <;> simp [hs, unknownSource]
  rw [introduced, groupNames, ← hfallback]
  by_cases h : r.names = [] ∧ r.findings ≠ []
  · have hcond : (r.namedSources.isEmpty && !r.findings.isEmpty) = true := by
      simp [hempty.mpr h.1, h.2]
    rw [if_pos h, if_pos hcond]
    rfl
  · have hcond : ¬ (r.namedSources.isEmpty && !r.findings.isEmpty) = true := by
      simpa [hempty] using h
    rw [if_neg h, if_neg hcond, map_source_namedSources]

theorem outcome_assign_eq_error_iff {r : AnalysisResult} {p : Finding × Option Location} {e : Fault} :
    (r.assign p).outcome = .error e ↔
      ∃ l, p.2 = some l ∧ SourceMap.fileIndex l.sourceMap = .error e := by
  rw [assign, Noted.outcome_bind_eq_error_iff]
  cases p.2 with
  | none => simp [groupOf]
  | some l =>
    rw [outcome_groupOf_some]
    cases hi : SourceMap.fileIndex l.sourceMap <;> simp [Except.map, hi]

/-- The fault of grouping is that of the file index of some location. -/
theorem exists_of_outcome_group_eq_error {r : AnalysisResult} {e : Fault}
    (h : r.group.outcome = .error e) :
    ∃ f ∈ r.findings, ∃ l ∈ f.locations, SourceMap.MisnumbersFile l.sourceMap ∧
      e = .location "sourceMap" l.sourceMap := by
  rw [outcome_group] at h
  cases hplaced : (Noted.each r.assign (Finding.occurrences r.findings)).outcome with
  | ok placed => rw [hplaced] at h; cases h
  | error d =>
    rw [hplaced] at h
    cases h
    obtain ⟨p, hp, he⟩ := Noted.exists_of_outcome_each_eq_error hplaced
    obtain ⟨l, hl, hindex⟩ := outcome_assign_eq_error_iff.mp he
    obtain ⟨f, _⟩ := p
    obtain rfl := hl
    obtain ⟨hf, hl⟩ := Finding.some_mem_occurrences_iff.mp hp
    exact ⟨f, hf, l, hl, SourceMap.fileIndex_eq_error_iff.mp hindex⟩

theorem exists_outcome_group_eq_error {r : AnalysisResult} {f : Finding} (hf : f ∈ r.findings)
    {l : Location} (hl : l ∈ f.locations) (h : SourceMap.MisnumbersFile l.sourceMap) :
    ∃ e, r.group.outcome = .error e := by
  have hp := Finding.some_mem_occurrences_iff.mpr ⟨hf, hl⟩
  have hindex := SourceMap.fileIndex_eq_error_iff.mpr ⟨h, rfl⟩
  obtain ⟨e, he⟩ := Noted.exists_outcome_each_eq_error hp
    (outcome_assign_eq_error_iff.mpr ⟨l, rfl, hindex⟩)
  exact ⟨e, by rw [outcome_group, he]; rfl⟩

section Grouped

variable {r : AnalysisResult} {groups : List FindingGroup}

theorem index_of_getElem?_group (h : r.group.outcome = .ok groups) {i : Nat} {g : FindingGroup}
    (hg : groups[i]? = some g) : g.index = i := by
  obtain ⟨placed, _, rfl⟩ := outcome_group_eq_ok_iff.mp h
  rw [getElem?_fill, groupsFor, List.getElem?_mapIdx, Option.map_map] at hg
  obtain ⟨s, _, rfl⟩ := Option.map_eq_some_iff.mp hg
  rfl

def positionIn (r : AnalysisResult) (groups : List FindingGroup) (place : Option Location) : Nat :=
  match r.home place with
  | .ok s => (groups.map (·.source)).idxOf s
  | .error _ => 0

theorem positionIn_none (h : r.group.outcome = .ok groups) : r.positionIn groups none = 0 := by
  change (groups.map (·.source)).idxOf r.firstSource = 0
  rw [map_source_group h, firstSource]
  cases r.introduced.map (·.source) with
  | nil => rfl
  | cons s ss => rw [firstSeen_cons, List.headD_cons, List.idxOf_cons_self]

theorem positionIn_eq_iff (h : r.group.outcome = .ok groups) {p : Finding × Option Location}
    (hp : p ∈ Finding.occurrences r.findings) {i : Nat} {g : FindingGroup} (hg : groups[i]? = some g) :
    r.positionIn groups p.2 = i ↔ r.home p.2 = .ok g.source := by
  obtain ⟨d, hd, hhome⟩ := exists_home h hp
  have hsource : (groups.map (·.source))[i]? = some g.source := by rw [List.getElem?_map, hg]; rfl
  have hmem : d.source ∈ groups.map (·.source) := List.mem_map_of_mem hd
  -- Sources are distinct, so the position of a source is where it stands.
  rw [positionIn, hhome, Except.ok.injEq]
  change (groups.map (·.source)).idxOf d.source = i ↔ _
  rw [← List.getElem?_inj (List.idxOf_lt_length_of_mem hmem) (nodup_map_source_group h),
    List.getElem?_idxOf hmem, hsource, Option.some.injEq]

theorem findings_of_getElem?_group (h : r.group.outcome = .ok groups) {i : Nat} {g : FindingGroup}
    (hg : groups[i]? = some g) : g.findings =
      ((Finding.occurrences r.findings).filter fun p => r.positionIn groups p.2 = i).map fun p => p.1.single p.2 := by
  rw [findings_group h (List.mem_of_getElem? hg), placesIn]
  congr 1
  apply List.filter_congr
  intro p hp
  simp only [positionIn_eq_iff h hp hg]

theorem group_sharedOut (h : r.group.outcome = .ok groups) : r.SharedOut groups := by
  have hsources : groups.map (·.source) = firstSeen r.groupNames := by
    rw [map_source_group h, map_source_introduced]
  refine ⟨nodup_map_source_group h, ?_, ?_, fun _ _ => index_of_getElem?_group h,
    r.positionIn groups, positionIn_none h, ?_, ?_⟩
  · intro s
    rw [hsources, mem_firstSeen]
  · rw [hsources]
    exact firstSeen_pairwise_idxOf _
  · intro p hp
    obtain ⟨g, hg, hhome⟩ := exists_home h hp
    obtain ⟨i, hi⟩ := List.mem_iff_getElem?.mp hg
    rw [(positionIn_eq_iff h hp hi).mpr hhome]
    exact (List.getElem?_eq_some_iff.mp hi).1
  · intro i g hg
    rw [findings_of_getElem?_group h hg, List.forall₂_map_right_iff, List.forall₂_same]
    exact fun p _ => p.1.isCopy_single p.2

end Grouped

/-- What makes grouping an ordered partition: it fails just on locations that misnumber their file,
with the fault of one of them, and otherwise shares out the places of all findings. -/
structure OrderedPartition (r : AnalysisResult) : Prop where
  fails_iff : (∃ e, r.group.outcome = .error e) ↔
    ∃ f ∈ r.findings, ∃ l ∈ f.locations, SourceMap.MisnumbersFile l.sourceMap
  fault : ∀ e, r.group.outcome = .error e → ∃ f ∈ r.findings, ∃ l ∈ f.locations,
    SourceMap.MisnumbersFile l.sourceMap ∧ e = .location "sourceMap" l.sourceMap
  sharedOut : ∀ groups, r.group.outcome = .ok groups → r.SharedOut groups

theorem group_orderedPartition (r : AnalysisResult) : r.OrderedPartition where
  fails_iff := by
    constructor
    · rintro ⟨e, he⟩
      obtain ⟨f, hf, l, hl, h, _⟩ := exists_of_outcome_group_eq_error he
      exact ⟨f, hf, l, hl, h⟩
    · rintro ⟨f, hf, l, hl, h⟩
      exact exists_outcome_group_eq_error hf hl h
  fault _ := exists_of_outcome_group_eq_error
  sharedOut _ := group_sharedOut

end AnalysisResult
end AuditReport
