import AuditReport.Proofs.Finding.Partition

/-!
# The group that a file index names

The copies that carry a location lie together in one group. A file index counts in the names that go with
the location; it leads to the group of the name that it counts out, which is there however often the
names repeat, or else to the first group. A location that names no file is placed by index zero, so it is
put with the first of its names. That is the first group unless the location lists sources of its own
and begins with another one than the result.
-/
namespace AuditReport

namespace AnalysisResult

def copiesAt (r : AnalysisResult) (l : Location) : List Finding :=
  r.findings.flatMap fun f => (f.locations.filter (· = l)).map fun m => f.single (some m)

/-- The copies that carry a location are all in the group at a position, and none is in another one. -/
structure CopiesIn (r : AnalysisResult) (groups : List FindingGroup) (l : Location) (k : Nat) :
    Prop where
  lt_length : k < groups.length
  filter_findings : ∀ (i : Nat) g, groups[i]? = some g →
    (g.findings.filter fun c => l ∈ c.locations) = if i = k then r.copiesAt l else []

/-- Where the copies that carry a location with a file index lie. The index counts in the list of the
location, or in that of the result for a location that lists no sources. -/
structure PlacedByIndex (r : AnalysisResult) (groups : List FindingGroup) (l : Location) (i : Int) :
    Prop where
  named : ∀ s, 0 ≤ i → (if l.sources = [] then r.sources else l.sources)[i.toNat]? = some s →
    ∃ k, (∀ j : Nat, (groups[j]?).map (·.source) = some s ↔ j = k) ∧ r.CopiesIn groups l k
  outside : i < -1 ∨ (if l.sources = [] then r.sources else l.sources).length ≤ i →
    r.CopiesIn groups l 0

def FirstHoldsFileless (r : AnalysisResult) (groups : List FindingGroup) : Prop :=
  ∀ f ∈ r.findings, ∀ l ∈ f.locations, SourceMap.NamesNoFile l.sourceMap → r.CopiesIn groups l 0

def ListsBeginAlike (r : AnalysisResult) : Prop :=
  ∀ f ∈ r.findings, ∀ l ∈ f.locations, SourceMap.NamesNoFile l.sourceMap →
    ∀ s ∈ l.sources.head?, r.groupNames.head? = some s

section Home

variable {r : AnalysisResult} {l : Location} {i : Int}

theorem namesFor_eq (r : AnalysisResult) (l : Location) :
    r.namesFor l = if l.sources = [] then r.sources else l.sources := by
  rw [namesFor]
  cases l.sources <;> rfl

theorem home_of_fileIndex {index : Option Int} (h : SourceMap.fileIndex l.sourceMap = .ok index) :
    r.home (some l) =
      .ok ((nameAt? (r.namesFor l) (countedIndex index)).getD r.firstSource) := by
  rw [home, h]
  rfl

theorem countedIndex_of_ne (h : i ≠ -1) : countedIndex (some i) = i := by
  rw [countedIndex, if_neg h]

theorem home_of_named (h : SourceMap.NumbersFile l.sourceMap i) (hne : i ≠ -1) (hpos : 0 ≤ i)
    {s : String} (hs : (r.namesFor l)[i.toNat]? = some s) : r.home (some l) = .ok s := by
  have hnot : ¬ i < 0 := by omega
  rw [home_of_fileIndex (SourceMap.fileIndex_of_numbersFile h), countedIndex_of_ne hne, nameAt?,
    if_neg hnot, hs]
  rfl

theorem home_of_outside (h : SourceMap.NumbersFile l.sourceMap i) (hne : i ≠ -1)
    (hout : i < -1 ∨ (r.namesFor l).length ≤ i) : r.home (some l) = .ok r.firstSource := by
  have hnone : nameAt? (r.namesFor l) i = none := by
    rw [nameAt?]
    by_cases hneg : i < 0
    · rw [if_pos hneg]
    · rw [if_neg hneg, List.getElem?_eq_none (by omega)]
  rw [home_of_fileIndex (SourceMap.fileIndex_of_numbersFile h), countedIndex_of_ne hne, hnone]
  rfl

/-- A location without a file is put with the first name that goes with it. -/
theorem home_of_namesNoFile (h : SourceMap.NamesNoFile l.sourceMap) :
    r.home (some l) = .ok ((r.namesFor l).head?.getD r.firstSource) := by
  rw [List.head?_eq_getElem?]
  rcases SourceMap.fileIndex_of_namesNoFile h with hindex | hindex
  · rw [home_of_fileIndex hindex]
    rfl
  · rw [home_of_fileIndex hindex]
    rfl

end Home

theorem map_single_filter_occurrences (r : AnalysisResult) (l : Location) :
    (((Finding.occurrences r.findings).filter fun p => p.2 = some l).map fun p => p.1.single p.2) =
      r.copiesAt l := by
  unfold copiesAt
  induction r.findings with
  | nil => rfl
  | cons f fs ih =>
    have hsome : (f.locations.map fun m => (f, some m)).filter (fun p => p.2 = some l) =
        (f.locations.filter (· = l)).map fun m => (f, some m) := by
      rw [List.filter_map]
      congr 1
      apply List.filter_congr
      intro m _
      simp
    have hnone : (if f.locations.isEmpty then [(f, none)] else []).filter
        (fun p : Finding × Option Location => p.2 = some l) = [] := by
      split_ifs <;> rfl
    rw [Finding.occurrences, List.filter_append, List.filter_append, hsome, hnone, List.append_nil,
      List.map_append, ih, List.flatMap_cons, List.map_map]
    rfl

theorem copiesAt_ne_nil {r : AnalysisResult} {f : Finding} {l : Location} (hf : f ∈ r.findings)
    (hl : l ∈ f.locations) : r.copiesAt l ≠ [] := by
  apply List.ne_nil_of_mem (a := f.single (some l))
  apply List.mem_flatMap.mpr
  refine ⟨f, hf, List.mem_map.mpr ⟨l, ?_, rfl⟩⟩
  rw [List.mem_filter]
  exact ⟨hl, decide_eq_true rfl⟩

section Grouped

variable {r : AnalysisResult} {groups : List FindingGroup} {f : Finding} {l : Location}

/-- A group holds all copies that carry a location which is at home in its source, and no others. -/
theorem filter_findings_group (h : r.group.outcome = .ok groups) {g : FindingGroup} (hg : g ∈ groups)
    (l : Location) : (g.findings.filter fun c => l ∈ c.locations) =
      if r.home (some l) = .ok g.source then r.copiesAt l else [] := by
  have hcarries : ∀ p : Finding × Option Location,
      l ∈ (p.1.single p.2).locations ↔ p.2 = some l := fun p => Option.mem_toList
  have hcondition : ∀ p : Finding × Option Location, (decide (l ∈ (p.1.single p.2).locations) &&
      decide (r.home p.2 = .ok g.source)) =
        (decide (p.2 = some l) && decide (r.home (some l) = .ok g.source)) := by
    intro p
    simp only [hcarries]
    by_cases hp : p.2 = some l <;> simp [hp]
  rw [findings_group h hg, List.filter_map, placesIn, List.filter_filter]
  simp only [Function.comp_apply, hcondition]
  split_ifs with hhome
  · simp only [hhome, decide_true, Bool.and_true]
    exact map_single_filter_occurrences r l
  · simp only [hhome, decide_false, Bool.and_false, List.filter_false, List.map_nil]

/-- No two groups are of one source. -/
theorem source_eq_iff (h : r.group.outcome = .ok groups) {i k : Nat} {d g : FindingGroup}
    (hd : groups[i]? = some d) (hg : groups[k]? = some g) : d.source = g.source ↔ i = k := by
  have hi : (groups.map (·.source))[i]? = some d.source := by rw [List.getElem?_map, hd]; rfl
  have hk : (groups.map (·.source))[k]? = some g.source := by rw [List.getElem?_map, hg]; rfl
  have hlt := (List.getElem?_eq_some_iff.mp hi).1
  rw [← List.getElem?_inj hlt (nodup_map_source_group h), hi, hk, Option.some.injEq]

/-- Copies that carry a location lie in the group of the source in which it is at home. -/
theorem copiesIn_iff_home (h : r.group.outcome = .ok groups) (hf : f ∈ r.findings)
    (hl : l ∈ f.locations) {k : Nat} {s : String} (hk : (groups[k]?).map (·.source) = some s) :
    r.CopiesIn groups l k ↔ r.home (some l) = .ok s := by
  obtain ⟨g, hg, rfl⟩ := Option.map_eq_some_iff.mp hk
  constructor
  · intro hcopies
    have hfilter := hcopies.filter_findings k g hg
    rw [filter_findings_group h (List.mem_of_getElem? hg), if_pos rfl] at hfilter
    by_contra hhome
    rw [if_neg hhome] at hfilter
    exact copiesAt_ne_nil hf hl hfilter.symm
  · intro hhome
    refine ⟨(List.getElem?_eq_some_iff.mp hg).1, ?_⟩
    intro i d hd
    rw [filter_findings_group h (List.mem_of_getElem? hd), hhome]
    simp only [Except.ok.injEq, eq_comm (a := g.source), source_eq_iff h hd hg]

theorem exists_position (h : r.group.outcome = .ok groups) {s : String}
    (hs : s ∈ groups.map (·.source)) :
    ∃ k, ∀ j : Nat, (groups[j]?).map (·.source) = some s ↔ j = k := by
  obtain ⟨g, hg, rfl⟩ := List.mem_map.mp hs
  obtain ⟨k, hk⟩ := List.mem_iff_getElem?.mp hg
  refine ⟨k, ?_⟩
  intro j
  rw [Option.map_eq_some_iff]
  constructor
  · rintro ⟨d, hd, hsource⟩
    exact (source_eq_iff h hd hk).mp hsource
  · rintro rfl
    exact ⟨g, hk, rfl⟩

theorem mem_sources_of_mem_namesFor (h : r.group.outcome = .ok groups) (hf : f ∈ r.findings)
    (hl : l ∈ f.locations) {s : String} (hs : s ∈ r.namesFor l) : s ∈ groups.map (·.source) := by
  rw [map_source_group h, mem_firstSeen]
  exact mem_introduced_of_mem_namesFor hf hl hs

theorem head_source_group (h : r.group.outcome = .ok groups) (hf : f ∈ r.findings) :
    (groups[0]?).map (·.source) = some r.firstSource := by
  obtain ⟨g, hg, hs⟩ := exists_firstSource (List.ne_nil_of_mem hf)
  rw [← List.getElem?_map, map_source_group h, ← map_source_groupsFor, List.getElem?_map, hg, ← hs]
  rfl

theorem head?_groupNames (hf : f ∈ r.findings) : r.groupNames.head? = some r.firstSource := by
  have hne := groupsFor_introduced_ne_nil (List.ne_nil_of_mem hf)
  rw [← map_source_introduced, firstSource]
  cases hn : r.introduced with
  | nil => exact absurd (by rw [hn]; rfl) hne
  | cons n ns => rfl

/-- For a result that lists sources, those are the first to get groups. -/
theorem firstSource_of_sources {s : String} {ss : List String} (hs : r.sources = s :: ss) :
    r.firstSource = s := by
  rw [firstSource, map_source_introduced, groupNames, names, hs]
  rfl

theorem group_placedByIndex (h : r.group.outcome = .ok groups) :
    ∀ f ∈ r.findings, ∀ l ∈ f.locations, ∀ i : Int, SourceMap.NumbersFile l.sourceMap i → i ≠ -1 →
      r.PlacedByIndex groups l i := by
  intro f hf l hl i hi hne
  constructor
  · intro s hpos hs
    rw [← namesFor_eq] at hs
    obtain ⟨k, hk⟩ :=
      exists_position h (mem_sources_of_mem_namesFor h hf hl (List.mem_of_getElem? hs))
    have hhome := home_of_named hi hne hpos hs
    exact ⟨k, hk, (copiesIn_iff_home h hf hl ((hk k).mpr rfl)).mpr hhome⟩
  · intro hout
    rw [← namesFor_eq] at hout
    have hhome := home_of_outside hi hne hout
    exact (copiesIn_iff_home h hf hl (head_source_group h hf)).mpr hhome

/-- Copies that carry a location without a file are in the first group unless the location lists
sources and begins with another one. -/
theorem copiesIn_zero_iff (h : r.group.outcome = .ok groups) (hf : f ∈ r.findings)
    (hl : l ∈ f.locations) (hnone : SourceMap.NamesNoFile l.sourceMap) :
    r.CopiesIn groups l 0 ↔ ∀ s ∈ l.sources.head?, r.groupNames.head? = some s := by
  rw [copiesIn_iff_home h hf hl (head_source_group h hf), home_of_namesNoFile hnone,
    head?_groupNames hf, Except.ok.injEq, namesFor_eq]
  cases hls : l.sources with
  | cons s ss =>
    rw [if_neg (List.cons_ne_nil s ss), List.head?_cons, Option.getD_some]
    simp [eq_comm]
  | nil =>
    rw [if_pos rfl, List.head?_nil]
    apply iff_of_true
    · cases hrs : r.sources with
      | nil => rfl
      | cons s ss => rw [firstSource_of_sources hrs, List.head?_cons, Option.getD_some]
    · intro s hs
      cases hs

theorem firstHoldsFileless_iff (h : r.group.outcome = .ok groups) :
    r.FirstHoldsFileless groups ↔ r.ListsBeginAlike := by
  constructor
  · intro hfirst f hf l hl hnone
    exact (copiesIn_zero_iff h hf hl hnone).mp (hfirst f hf l hl hnone)
  · intro halike f hf l hl hnone
    exact (copiesIn_zero_iff h hf hl hnone).mpr (halike f hf l hl hnone)

end Grouped
end AnalysisResult

/-- A location whose own list repeats a name and puts the source of the result last. -/
def inSecondOfThree : Location := ⟨"0:1:1", none, none, ["b.sol", "b.sol", "a.sol"]⟩

def pastTheEnd : Location := ⟨"0:1:3;5", none, none, ["b.sol", "b.sol", "a.sol"]⟩

def repeatedNames : AnalysisResult where
  kind := none
  format := none
  sources := ["a.sol"]
  findings := [⟨some "101", none, ⟨"found", ""⟩, some "High", [inSecondOfThree, pastTheEnd], []⟩]
  info := .empty
  source := none

/-- Index 1 leads to the second group, which is that of the repeated name, and index 3 to the first. -/
theorem repeatedNames_placedByIndex : ∃ groups, repeatedNames.group.outcome = .ok groups ∧
    groups.map (·.source) = ["a.sol", "b.sol"] ∧
    repeatedNames.CopiesIn groups inSecondOfThree 1 ∧ repeatedNames.CopiesIn groups pastTheEnd 0 := by
  have hone : SourceMap.NumbersFile inSecondOfThree.sourceMap 1 :=
    ⟨['1'], ⟨['0'], ['1'], [], rfl, by decide, nofun⟩, rfl⟩
  have hthree : SourceMap.NumbersFile pastTheEnd.sourceMap 3 :=
    ⟨['3'], ⟨['0'], ['1'], [';', '5'], rfl, by decide,
      fun _ hc => Or.inr (Option.some.inj hc).symm⟩, rfl⟩
  have hplaced := AnalysisResult.group_placedByIndex (r := repeatedNames) rfl _ List.mem_cons_self
  refine ⟨_, rfl, rfl, ?_, ?_⟩
  · have hsecond := hplaced inSecondOfThree List.mem_cons_self 1 hone (by decide)
    obtain ⟨k, hk, hcopies⟩ := hsecond.named "b.sol" (by decide) rfl
    cases (hk 1).mp rfl
    exact hcopies
  · have hmem := List.mem_cons_of_mem inSecondOfThree (List.mem_singleton_self pastTheEnd)
    exact (hplaced pastTheEnd hmem 3 hthree (by decide)).outside (Or.inr (by decide))

def withoutFile (sources : List String) : AnalysisResult where
  kind := none
  format := none
  sources := ["a.sol"]
  findings := [⟨some "101", none, ⟨"found", ""⟩, some "High", [⟨"0:1:-1", none, none, sources⟩], []⟩]
  info := .empty
  source := none

theorem namesNoFile_minusOne : SourceMap.NamesNoFile "0:1:-1" :=
  Or.inr ⟨['-', '1'], ⟨['0'], ['1'], [], rfl, by decide, nofun⟩, Or.inr rfl⟩

theorem not_forall_firstHoldsFileless :
    ¬ ∀ r groups, r.group.outcome = .ok groups → AnalysisResult.FirstHoldsFileless r groups := by
  intro hall
  have hfirst := hall (withoutFile ["b.sol"]) _ rfl _ List.mem_cons_self _ List.mem_cons_self
    namesNoFile_minusOne
  have hsecond := congrArg List.length (hfirst.filter_findings 1 _ rfl)
  exact absurd hsecond (by decide)

theorem withoutFile_firstHoldsFileless : ∃ groups,
    (withoutFile ["a.sol", "b.sol"]).group.outcome = .ok groups ∧
      (withoutFile ["a.sol", "b.sol"]).FirstHoldsFileless groups := by
  refine ⟨_, rfl, (AnalysisResult.firstHoldsFileless_iff rfl).mpr ?_⟩
  intro f hf l hl _ s hs
  cases List.mem_singleton.mp hf
  cases List.mem_singleton.mp hl
  exact hs

end AuditReport
