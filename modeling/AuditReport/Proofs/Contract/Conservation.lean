import AuditReport.Proofs.Contract.Combined
import AuditReport.Proofs.Finding.Placement
import Mathlib.Algebra.GroupWithZero.Nat

/-!
# Findings are conserved

A place of a finding is told by at most one record, on the path of the source that it is put under.
The file reports of contracts hold, up to order, the records of all places of all findings: none is
lost, made up or moved to another path. Combining the reports then keeps every record once.
-/
namespace AuditReport

structure Place where
  artifact : Artifact
  result : AnalysisResult
  finding : Finding
  location : Option Location

namespace Place

def copy (p : Place) : Finding :=
  p.finding.single p.location

/-- Grouping puts the copy of the place under a path, where it cannot be ignored and makes a record
that passes the filter. -/
def Told (config : ReportConfig) (p : Place) (path : String) (m : Record) : Prop :=
  ∃ v groups g, ContractView.ofArtifact p.artifact = .ok v ∧ p.result.group.outcome = .ok groups ∧
    g ∈ groups ∧ g.source = path ∧ p.copy ∈ g.findings ∧
    (v.canIgnore p.copy g.format (some path)).outcome = .ok false ∧
    (v.record p.copy config.spaceLimited g.format (some path)).outcome = .ok m ∧
    config.filter.keeps m = true

end Place

def Job.places (j : Job) : List Place :=
  j.results.flatMap fun r =>
    (Finding.occurrences r.findings).map fun p => ⟨j.artifact, r, p.1, p.2⟩

def FileReport.withPath (r : FileReport) : List (String × Record) :=
  r.records.map fun m => (r.path, m)

theorem FileReport.mem_flatMap_withPath {rs : List FileReport} {path : String} {m : Record} :
    (path, m) ∈ rs.flatMap (·.withPath) ↔ ∃ r ∈ rs, r.path = path ∧ m ∈ r.records := by
  simp [FileReport.withPath, and_comm]

theorem FileReport.length_flatMap_withPath (rs : List FileReport) :
    (rs.flatMap (·.withPath)).length = (rs.map (·.records.length)).sum := by
  simp [FileReport.withPath, List.length_flatMap]

namespace ContractView

def told? (v : ContractView) (config : ReportConfig) (r : AnalysisResult)
    (p : Finding × Option Location) : Option (String × Record) :=
  (r.home p.2).toOption.bind fun s =>
    ((v.record? config.filter config.spaceLimited (AnalysisResult.firstNaming r.introduced s).format
      (some s) (p.1.single p.2)).outcome.toOption.join).map fun m => (s, m)

theorem told?_of_home {v : ContractView} {config : ReportConfig} {r : AnalysisResult}
    {groups : List FindingGroup} (h : r.group.outcome = .ok groups) {g : FindingGroup}
    (hg : g ∈ groups) {p : Finding × Option Location} (hhome : r.home p.2 = .ok g.source) :
    v.told? config r p = ((v.record? config.filter config.spaceLimited g.format (some g.source)
      (p.1.single p.2)).outcome.toOption.join).map fun m => (g.source, m) := by
  rw [AnalysisResult.format_of_mem_group h hg, told?, hhome]
  rfl

/-- The record of a finding is there exactly if the finding is not ignored and the record passes. -/
theorem record?_eq_some_iff {v : ContractView} {filter : Filter} {spaceLimited : Bool}
    {format name : Option String} {f : Finding} {m : Record} :
    (v.record? filter spaceLimited format name f).outcome = .ok (some m) ↔
      (v.canIgnore f format name).outcome = .ok false ∧
      (v.record f spaceLimited format name).outcome = .ok m ∧ filter.keeps m = true := by
  rw [record?, Noted.outcome_bind_eq_ok_iff]
  constructor
  · rintro ⟨ignored, hi, h⟩
    cases ignored with
    | true => cases h
    | false =>
      obtain ⟨n, hn, h⟩ := Noted.outcome_bind_eq_ok_iff.mp h
      by_cases hk : filter.keeps n = true
      · rw [if_pos hk] at h
        cases h
        exact ⟨hi, hn, hk⟩
      · rw [if_neg hk] at h
        cases h
  · rintro ⟨hi, hm, hk⟩
    refine ⟨false, hi, Noted.outcome_bind_eq_ok_iff.mpr ⟨m, hm, ?_⟩⟩
    rw [if_pos hk]
    rfl

theorem withPath_fileReport {v : ContractView} {config : ReportConfig} {g : FindingGroup}
    {rep : FileReport} (h : (v.fileReport config.filter config.spaceLimited g).outcome = .ok rep) :
    rep.withPath = g.findings.filterMap fun c =>
      ((v.record? config.filter config.spaceLimited g.format (some g.source) c).outcome.toOption.join).map
        fun m => (g.source, m) := by
  obtain ⟨found, hfound, h⟩ := Noted.outcome_bind_eq_ok_iff.mp h
  cases h
  rw [FileReport.withPath, List.map_filterMap]
  apply Noted.filterMap_each hfound
  intro c _ o ho
  rw [ho]
  rfl

/-- The reports on a result tell each of its places, in the groups' order. -/
theorem withPath_resultReports {v : ContractView} {config : ReportConfig} {r : AnalysisResult}
    {reports : List FileReport}
    (h : (ContractReport.resultReports v config r).outcome = .ok reports) :
    (reports.flatMap (·.withPath)).Perm
      ((Finding.occurrences r.findings).filterMap (v.told? config r)) := by
  obtain ⟨groups, hgroups, h⟩ := Noted.outcome_bind_eq_ok_iff.mp h
  have htold : (reports.flatMap (·.withPath)).Perm
      (groups.flatMap fun g => (r.placesIn g.source).filterMap (v.told? config r)) := by
    apply flatMap_perm_of_forall₂ (Noted.outcome_each_eq_ok_iff.mp h)
    intro g hg rep hrep
    rw [withPath_fileReport hrep, AnalysisResult.findings_group hgroups hg, List.filterMap_map]
    apply List.Perm.of_eq
    apply List.filterMap_congr
    intro p hp
    rw [told?_of_home hgroups hg (AnalysisResult.mem_placesIn.mp hp).2, Function.comp_apply]
  have hshared := (AnalysisResult.placesIn_group_perm hgroups).filterMap (v.told? config r)
  rw [List.filterMap_flatMap] at hshared
  exact htold.trans hshared

/-- A place is told by a path and a record exactly if its copy is in the group of the path and makes
the record, which the filter keeps. -/
theorem told?_eq_some_iff {v : ContractView} {config : ReportConfig} {r : AnalysisResult}
    {groups : List FindingGroup} (h : r.group.outcome = .ok groups)
    {p : Finding × Option Location} (hp : p ∈ Finding.occurrences r.findings) {path : String} {m : Record} :
    v.told? config r p = some (path, m) ↔ ∃ g ∈ groups, g.source = path ∧
      p.1.single p.2 ∈ g.findings ∧
      (v.canIgnore (p.1.single p.2) g.format (some path)).outcome = .ok false ∧
      (v.record (p.1.single p.2) config.spaceLimited g.format (some path)).outcome = .ok m ∧
      config.filter.keeps m = true := by
  constructor
  · intro htold
    obtain ⟨g, hg, hhome⟩ := AnalysisResult.exists_home h hp
    rw [told?_of_home h hg hhome] at htold
    obtain ⟨n, hn, heq⟩ := Option.map_eq_some_iff.mp htold
    cases heq
    have hmade := record?_eq_some_iff.mp (Noted.toOption_join_eq_some_iff.mp hn)
    exact ⟨g, hg, rfl, (AnalysisResult.mem_findings_group h hg).mpr ⟨p, hp, rfl, hhome⟩, hmade⟩
  · rintro ⟨g, hg, rfl, hc, hmade⟩
    have hhome := AnalysisResult.home_of_single_mem h hg hc
    rw [told?_of_home h hg hhome, record?_eq_some_iff.mpr hmade]
    rfl

end ContractView

namespace ContractReport

theorem withPath_ofResults {a : Artifact} {results : List AnalysisResult} {config : ReportConfig}
    {c : ContractReport} (h : (ofResults a results config).outcome = .ok c) :
    ∃ v, ContractView.ofArtifact a = .ok v ∧ (∀ r ∈ results, ∃ gs, r.group.outcome = .ok gs) ∧
      (c.reports.flatMap (·.withPath)).Perm
        (results.flatMap fun r => (Finding.occurrences r.findings).filterMap (v.told? config r)) := by
  obtain ⟨v, hv, h⟩ := Noted.outcome_bind_eq_ok_iff.mp h
  obtain ⟨reports, hreports, h⟩ := Noted.outcome_bind_eq_ok_iff.mp h
  cases h
  rw [Noted.outcome_each_eq_ok_iff] at hreports
  refine ⟨v, hv, ?_, ?_⟩
  · intro r hr
    obtain ⟨rs, _, hrs⟩ := exists_right_of_forall₂ hreports hr
    obtain ⟨gs, hgs, _⟩ := Noted.outcome_bind_eq_ok_iff.mp hrs
    exact ⟨gs, hgs⟩
  · change (reports.flatten.flatMap _).Perm _
    rw [← List.flatMap_id, List.flatMap_assoc]
    exact flatMap_perm_of_forall₂ hreports fun r _ rs hrs => ContractView.withPath_resultReports hrs

end ContractReport

namespace Place

def told? (config : ReportConfig) (p : Place) : Option (String × Record) :=
  (ContractView.ofArtifact p.artifact).toOption.bind fun v =>
    v.told? config p.result (p.finding, p.location)

/-- A place of a contract that is reported on is told in at most one way. -/
theorem told_iff {config : ReportConfig} {j : Job} {c : ContractReport}
    (h : (ContractReport.ofResults j.artifact j.results config).outcome = .ok c) {p : Place}
    (hp : p ∈ j.places) {path : String} {m : Record} :
    p.Told config path m ↔ p.told? config = some (path, m) := by
  obtain ⟨v, hv, hgroups, _⟩ := ContractReport.withPath_ofResults h
  obtain ⟨r, hr, hp⟩ := List.mem_flatMap.mp hp
  obtain ⟨q, hq, rfl⟩ := List.mem_map.mp hp
  obtain ⟨groups, hg⟩ := hgroups r hr
  have htold : v.told? config r q = some (path, m) ↔ _ := ContractView.told?_eq_some_iff hg hq
  simp only [told?, hv, Except.toOption, Option.bind_some, htold]
  constructor
  · rintro ⟨w, gs, g, hw, hgs, hmem⟩
    cases hv.symm.trans hw
    cases hg.symm.trans hgs
    exact ⟨g, hmem⟩
  · rintro ⟨g, hmem⟩
    exact ⟨v, groups, g, hv, hg, hmem⟩

end Place

theorem Job.withPath_ofResults {config : ReportConfig} {j : Job} {c : ContractReport}
    (h : (ContractReport.ofResults j.artifact j.results config).outcome = .ok c) :
    (c.reports.flatMap (·.withPath)).Perm (j.places.filterMap (Place.told? config)) := by
  obtain ⟨v, hv, _, hperm⟩ := ContractReport.withPath_ofResults h
  rw [Job.places, List.filterMap_flatMap]
  simp only [List.filterMap_map, Function.comp_def, Place.told?, hv, Except.toOption,
    Option.bind_some]
  exact hperm

section Jobs

variable {config : ReportConfig} {jobs : List Job} {contracts : List ContractReport}

def Reported (config : ReportConfig) : List Job → List ContractReport → Prop :=
  List.Forall₂ fun j c => (ContractReport.ofResults j.artifact j.results config).outcome = .ok c

theorem withPath_reported (h : Reported config jobs contracts) :
    ((contracts.flatMap (·.reports)).flatMap (·.withPath)).Perm
      ((jobs.flatMap Job.places).filterMap (Place.told? config)) := by
  rw [List.flatMap_assoc, List.filterMap_flatMap]
  exact flatMap_perm_of_forall₂ h fun j _ c hc => Job.withPath_ofResults hc

theorem told_iff_of_reported (h : Reported config jobs contracts) {p : Place}
    (hp : p ∈ jobs.flatMap Job.places) {path : String} {m : Record} :
    p.Told config path m ↔ p.told? config = some (path, m) := by
  obtain ⟨j, hj, hp⟩ := List.mem_flatMap.mp hp
  obtain ⟨c, _, hc⟩ := exists_right_of_forall₂ h hj
  exact Place.told_iff hc hp

open scoped Classical in
/-- What makes combined reports conserve the findings of jobs: they tell what the places of findings
make, each record once, and the reports before were as many records as places that make one. -/
structure Conserved (config : ReportConfig) (jobs : List Job) (contracts : List ContractReport) :
    Prop where
  told : ∀ path m, (∃ r ∈ combinedReports contracts, r.path = path ∧ m ∈ r.records) ↔
    ∃ p ∈ jobs.flatMap Job.places, p.Told config path m
  nodup_paths : ((combinedReports contracts).map (·.path)).Nodup
  nodup_records : ∀ r ∈ combinedReports contracts, r.records.Nodup
  /-- No place is told under two paths or by two records. -/
  told_once : ∀ p ∈ jobs.flatMap Job.places, ∀ path m path' m', p.Told config path m →
    p.Told config path' m' → path = path' ∧ m = m'
  counted : ((contracts.flatMap (·.reports)).map (·.records.length)).sum =
    (jobs.flatMap Job.places).countP fun p => ∃ path m, p.Told config path m

end Jobs

def twoLines (name : String) : Artifact where
  name := name
  bytecode := ""
  deployedBytecode := ""
  sourceMap := ""
  deployedSourceMap := ""
  sourcePath := "a.sol"
  source := "a\nb\n"
  ast := none
  legacyAst := none
  compilerVersion := none
  sources := [("a.sol", ⟨"", none, none, none⟩)]

/-- A finding at two places, one that is dropped by its rule, and one without a location. -/
def threeFindings : AnalysisResult where
  kind := none
  format := some "text"
  sources := ["a.sol"]
  findings := [
    ⟨some "101", none, ⟨"twice", ""⟩, some "High",
      [⟨"0:1:0", none, none, []⟩, ⟨"2:1:0", none, none, []⟩], []⟩,
    ⟨some "102", none, ⟨"dropped", ""⟩, some "High", [⟨"0:1:0", none, none, []⟩], []⟩,
    ⟨none, none, ⟨"nowhere", ""⟩, some "Medium", [], []⟩]
  info := .empty
  source := none

def sharedJobs : List Job :=
  [⟨twoLines "A", [threeFindings]⟩, ⟨twoLines "B", [threeFindings]⟩]

def withoutRule102 : ReportConfig := ⟨"stylish", 0, ⟨none, ["102"]⟩⟩

end AuditReport
