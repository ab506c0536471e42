import AuditReport.Finding.Grouping
import AuditReport.Proofs.FirstSeen
import AuditReport.Proofs.Noted
import Mathlib.Data.List.Induction

/-!
# The groups of a result

A result has one group for each source that it names, in the order in which the sources are first
named, with the kind and format of that first naming. A result that names no source and has findings
gets a single group.
-/
namespace AuditReport.AnalysisResult

/-- The sources that get a group: those that are named, or a single one for findings without any. -/
def introduced (r : AnalysisResult) : List NamedSource :=
  if r.namedSources.isEmpty && !r.findings.isEmpty then
    [⟨Text.orDefault r.source unknownSource, r.kind, r.format⟩]
  else r.namedSources

def firstNaming (ns : List NamedSource) (source : String) : NamedSource :=
  (ns.find? fun n => n.source == source).getD ⟨source, none, none⟩

def groupsFor (ns : List NamedSource) : List FindingGroup :=
  (firstSeen (ns.map (·.source))).mapIdx fun i s =>
    ⟨i, s, (firstNaming ns s).kind, (firstNaming ns s).format, []⟩

theorem firstNaming_append_of_mem {ns : List NamedSource} {s : String}
    (hs : s ∈ ns.map (·.source)) (more : List NamedSource) :
    firstNaming (ns ++ more) s = firstNaming ns s := by
  obtain ⟨n, hn, rfl⟩ := List.mem_map.mp hs
  have hsome : (ns.find? fun k => k.source == n.source).isSome = true :=
    List.find?_isSome.mpr ⟨n, hn, beq_self_eq_true n.source⟩
  obtain ⟨k, hk⟩ := Option.isSome_iff_exists.mp hsome
  rw [firstNaming, firstNaming, List.find?_append, hk]
  rfl

theorem firstNaming_append_of_not_mem {ns : List NamedSource} {n : NamedSource}
    (hn : n.source ∉ ns.map (·.source)) : firstNaming (ns ++ [n]) n.source = n := by
  have hnone : (ns.find? fun k => k.source == n.source) = none := by
    apply List.find?_eq_none.mpr
    intro k hk he
    exact hn (List.mem_map.mpr ⟨k, hk, beq_iff_eq.mp he⟩)
  rw [firstNaming, List.find?_append, hnone]
  simp

theorem map_source_groupsFor (ns : List NamedSource) :
    (groupsFor ns).map (·.source) = firstSeen (ns.map (·.source)) := by
  apply List.ext_getElem?
  intro i
  rw [groupsFor, List.getElem?_map, List.getElem?_mapIdx, Option.map_map]
  exact Option.map_id'

/-- No two groups are of one source. -/
theorem groupsFor_inj {ns : List NamedSource} {i j : Nat} {g h : FindingGroup}
    (hi : (groupsFor ns)[i]? = some g) (hj : (groupsFor ns)[j]? = some h)
    (hs : g.source = h.source) : i = j := by
  have hnodup : ((groupsFor ns).map (·.source)).Nodup := by
    rw [map_source_groupsFor]
    exact nodup_firstSeen _
  have hlt : i < ((groupsFor ns).map (·.source)).length := by
    rw [List.length_map]
    exact (List.getElem?_eq_some_iff.mp hi).1
  apply (List.getElem?_inj hlt hnodup).mp
  rw [List.getElem?_map, List.getElem?_map, hi, hj, Option.map_some, Option.map_some, hs]

@[simp] theorem length_groupsFor (ns : List NamedSource) :
    (groupsFor ns).length = (firstSeen (ns.map (·.source))).length := by
  rw [groupsFor, List.length_mapIdx]

/-- The groups of more sources begin with those of the first ones. -/
theorem groupsFor_append_singleton (ns : List NamedSource) (n : NamedSource) :
    groupsFor (ns ++ [n]) =
      if n.source ∈ ns.map (·.source) then groupsFor ns
      else groupsFor ns ++ [⟨(groupsFor ns).length, n.source, n.kind, n.format, []⟩] := by
  have hold : ((firstSeen (ns.map (·.source))).mapIdx fun i s =>
      (⟨i, s, (firstNaming (ns ++ [n]) s).kind, (firstNaming (ns ++ [n]) s).format, []⟩ :
        FindingGroup)) = groupsFor ns := by
    apply List.mapIdx_eq_mapIdx_iff.mpr
    intro i hi
    have hs := mem_firstSeen.mp (List.getElem_mem hi)
    rw [firstNaming_append_of_mem hs]
  rw [groupsFor, List.map_append, List.map_singleton, firstSeen_append_singleton]
  by_cases hn : n.source ∈ ns.map (·.source)
  · rw [if_pos hn, if_pos hn, List.append_nil, hold]
  · rw [if_neg hn, if_neg hn, List.mapIdx_concat, hold, firstNaming_append_of_not_mem hn,
      length_groupsFor]

theorem foldl_addSource (ns : List NamedSource) :
    ns.foldl (fun gs n => FindingGroup.addSource gs n.source n.kind n.format) [] =
      groupsFor ns := by
  induction ns using List.reverseRecOn with
  | nil => rfl
  | append_singleton ns n ih =>
    have hany : ((groupsFor ns).any fun g => g.source == n.source) = true ↔
        n.source ∈ ns.map (·.source) := by
      rw [← mem_firstSeen, ← map_source_groupsFor, List.any_eq_true, List.mem_map]
      simp only [beq_iff_eq]
    rw [List.foldl_append, ih, List.foldl_cons, List.foldl_nil, groupsFor_append_singleton,
      FindingGroup.addSource]
    simp only [hany]

theorem isEmpty_groupsFor (ns : List NamedSource) : (groupsFor ns).isEmpty = ns.isEmpty := by
  cases ns with
  | nil => rfl
  | cons n ns => simp [groupsFor, firstSeen_cons]

theorem outcome_emptyGroups (r : AnalysisResult) :
    r.emptyGroups.outcome = .ok (groupsFor r.introduced) := by
  rw [emptyGroups, foldl_addSource, isEmpty_groupsFor, introduced]
  by_cases h : (r.namedSources.isEmpty && !r.findings.isEmpty) = true
  · rw [if_pos h, if_pos h, ← foldl_addSource, Noted.outcome_bind]
    rfl
  · rw [if_neg h, if_neg h]
    rfl

theorem groupsFor_introduced_ne_nil {r : AnalysisResult} (h : r.findings ≠ []) :
    groupsFor r.introduced ≠ [] := by
  intro he
  have hempty : r.introduced.isEmpty = true := by rw [← isEmpty_groupsFor, he]; rfl
  cases hf : r.findings with
  | nil => exact h hf
  | cons f fs =>
    rw [introduced, hf] at hempty
    cases hn : r.namedSources with
    | nil => simp [hn] at hempty
    | cons n ns => simp [hn] at hempty

theorem mem_groupsFor {ns : List NamedSource} {g : FindingGroup} (hg : g ∈ groupsFor ns) :
    g.source ∈ ns.map (·.source) ∧ g.kind = (firstNaming ns g.source).kind ∧
      g.format = (firstNaming ns g.source).format ∧ g.findings = [] := by
  obtain ⟨i, hi, rfl⟩ := List.mem_mapIdx.mp hg
  exact ⟨mem_firstSeen.mp (List.getElem_mem hi), rfl, rfl, rfl⟩

end AuditReport.AnalysisResult
