import AuditReport.Proofs.Contract.Conservation
import AuditReport.Proofs.Diagnostic.Arrangement

/-!
# Filtering before and after

A filter is applied to each record as it is made, before reports are put together. It never decides
whether a contract fails, and applying it to the combined reports instead gives the same reports:
arranging records and leaving out a class of them commute, and what counts as fixable does not hang on
the records.
-/
namespace AuditReport

namespace ReportConfig

def unfiltered (c : ReportConfig) : ReportConfig :=
  { c with filter := .empty }

end ReportConfig

namespace FileReport

def filtered (filter : Filter) (r : FileReport) : FileReport :=
  r.withRecords (filter.apply r.records)

end FileReport

def ContractReport.filtered (filter : Filter) (c : ContractReport) : ContractReport :=
  { c with reports := c.reports.map (·.filtered filter) }

namespace ContractView

variable {v : ContractView} {filter : Filter} {spaceLimited : Bool}

theorem outcome_record?_filter {format name : Option String} (f : Finding) :
    (v.record? filter spaceLimited format name f).outcome =
      (v.record? .empty spaceLimited format name f).outcome.map (Option.filter filter.keeps) := by
  apply Noted.outcome_bind_map
  intro ignored
  cases ignored with
  | true => rfl
  | false =>
    -- The filter is asked of the finished record, so it has no part in what fails.
    apply Noted.outcome_bind_map
    intro m
    change Except.ok (if filter.keeps m = true then some m else none) =
      Except.ok ((some m).filter filter.keeps)
    rw [Option.filter_some]

theorem outcome_fileReport_filter (g : FindingGroup) :
    (v.fileReport filter spaceLimited g).outcome =
      (v.fileReport .empty spaceLimited g).outcome.map (FileReport.filtered filter) := by
  have hrecord : ∀ f, (v.record? filter spaceLimited g.format (some g.source) f).outcome =
      (v.record? .empty spaceLimited g.format (some g.source) f).outcome.map
        (Option.filter filter.keeps) := outcome_record?_filter
  rw [fileReport, fileReport, Noted.outcome_bind, Noted.outcome_bind,
    Noted.outcome_each_map hrecord g.findings]
  cases (Noted.each (v.record? .empty spaceLimited g.format (some g.source)) g.findings).outcome with
  | error e => rfl
  | ok found =>
    have hkept : (found.map (Option.filter filter.keeps)).filterMap id =
        (found.filterMap id).filter filter.keeps := by
      rw [List.filterMap_map, List.filter_filterMap]
      rfl
    change Except.ok (FileReport.mk g.source _ _ 0 0 _) = Except.ok (FileReport.filtered filter _)
    rw [hkept]
    rfl

end ContractView

namespace ContractReport

theorem outcome_resultReports_filter (v : ContractView) (config : ReportConfig)
    (r : AnalysisResult) : (resultReports v config r).outcome =
      (resultReports v config.unfiltered r).outcome.map
        (List.map (FileReport.filtered config.filter)) := by
  apply Noted.outcome_bind_map
  intro groups
  exact Noted.outcome_each_map ContractView.outcome_fileReport_filter groups

/-- Filtering records as they are made filters the reports of the contract. -/
theorem outcome_ofResults_filter (a : Artifact) (results : List AnalysisResult)
    (config : ReportConfig) : (ofResults a results config).outcome =
      (ofResults a results config.unfiltered).outcome.map (filtered config.filter) := by
  apply Noted.outcome_bind_map
  intro v
  rw [Noted.outcome_bind, Noted.outcome_bind,
    Noted.outcome_each_map (outcome_resultReports_filter v config) results]
  cases (Noted.each (resultReports v config.unfiltered) results).outcome with
  | error e => rfl
  | ok reports =>
    change Except.ok (ContractReport.mk _ _ (reports.map _).flatten _) =
      Except.ok (ContractReport.mk _ _ (reports.flatten.map _) _)
    rw [List.map_flatten]

end ContractReport

theorem recordsOn_map_filtered (filter : Filter) (path : String) (rs : List FileReport) :
    recordsOn path (rs.map (·.filtered filter)) = (recordsOn path rs).filter filter.keeps := by
  rw [recordsOn, recordsOn, List.filter_map, List.flatMap_map, List.filter_flatMap]
  rfl

namespace FileReport

theorem countOn_map_filtered {count : FileReport → Int} {filter : Filter}
    (hcount : ∀ r : FileReport, count (r.filtered filter) = count r) (path : String)
    (rs : List FileReport) :
    countOn count path (rs.map (·.filtered filter)) = countOn count path rs := by
  rw [countOn, countOn, List.filter_map, List.map_map]
  exact congrArg List.sum (List.map_congr_left fun r _ => hcount r)

theorem merged_map_filtered (filter : Filter) (rs : List FileReport) (path : String) :
    merged (rs.map (·.filtered filter)) path = (merged rs path).filtered filter := by
  rw [merged_eq, recordsOn_map_filtered, arrange_filter, countOn_map_filtered fun _ => rfl,
    countOn_map_filtered fun _ => rfl]
  rfl

theorem combine_map_filtered (filter : Filter) (rs : List FileReport) :
    combine (rs.map (·.filtered filter)) = (combine rs).map (·.filtered filter) := by
  rw [combine_eq, combine_eq, List.map_map, List.map_map]
  exact List.map_congr_left fun p _ => merged_map_filtered filter rs p

end FileReport

theorem combinedReports_map_filtered (filter : Filter) (contracts : List ContractReport) :
    combinedReports (contracts.map (·.filtered filter)) =
      (combinedReports contracts).map (·.filtered filter) := by
  rw [combinedReports, combinedReports, ← FileReport.combine_map_filtered, List.flatMap_map,
    List.map_flatMap]
  rfl

section Jobs

variable {config : ReportConfig} {jobs : List Job} {contracts all : List ContractReport}

theorem Reported.eq_map_filtered (h : Reported config jobs contracts)
    (hall : Reported config.unfiltered jobs all) :
    contracts = all.map (·.filtered config.filter) := by
  induction h generalizing all with
  | nil =>
    cases hall
    rfl
  | cons hc _ ih =>
    cases hall with
    | cons hd hrest =>
      rw [ContractReport.outcome_ofResults_filter, hd] at hc
      rw [List.map_cons, ← ih hrest, ← Except.ok.inj hc]

theorem reported_iff_unfiltered :
    (∃ contracts, Reported config jobs contracts) ↔ ∃ all, Reported config.unfiltered jobs all := by
  constructor
  · rintro ⟨contracts, h⟩
    induction h with
    | nil => exact ⟨[], .nil⟩
    | @cons j _ _ _ hc _ ih =>
      obtain ⟨all, hall⟩ := ih
      rw [ContractReport.outcome_ofResults_filter] at hc
      cases hd : (ContractReport.ofResults j.artifact j.results config.unfiltered).outcome with
      | error e => rw [hd] at hc; cases hc
      | ok d => exact ⟨d :: all, .cons hd hall⟩
  · rintro ⟨all, hall⟩
    refine ⟨all.map (·.filtered config.filter), List.forall₂_map_right_iff.mpr ?_⟩
    refine hall.imp fun j c hc => ?_
    rw [ContractReport.outcome_ofResults_filter, hc]
    rfl

structure FilteredLate (config : ReportConfig) (jobs : List Job) : Prop where
  fault_iff : ∀ j ∈ jobs, ∀ e,
    (ContractReport.ofResults j.artifact j.results config).outcome = .error e ↔
      (ContractReport.ofResults j.artifact j.results config.unfiltered).outcome = .error e
  reported_iff : (∃ contracts, Reported config jobs contracts) ↔
    ∃ all, Reported config.unfiltered jobs all
  combined : ∀ contracts all, Reported config jobs contracts → Reported config.unfiltered jobs all →
    combinedReports contracts = (combinedReports all).map (·.filtered config.filter)
  paths : ∀ contracts all, Reported config jobs contracts → Reported config.unfiltered jobs all →
    (combinedReports contracts).map (·.path) = (combinedReports all).map (·.path)
  sublist : ∀ contracts all, Reported config jobs contracts → Reported config.unfiltered jobs all →
    List.Forall₂ (fun r s => r.records.Sublist s.records)
      (combinedReports contracts) (combinedReports all)

theorem combinedReports_filteredLate (config : ReportConfig) (jobs : List Job) :
    FilteredLate config jobs := by
  have hcombined : ∀ contracts all, Reported config jobs contracts →
      Reported config.unfiltered jobs all →
      combinedReports contracts = (combinedReports all).map (·.filtered config.filter) := by
    intro contracts all h hall
    rw [h.eq_map_filtered hall, combinedReports_map_filtered]
  constructor
  · intro j _ e
    rw [ContractReport.outcome_ofResults_filter]
    cases (ContractReport.ofResults j.artifact j.results config.unfiltered).outcome with
    | error f => rfl
    | ok c => exact ⟨nofun, nofun⟩
  · exact reported_iff_unfiltered
  · exact hcombined
  · intro contracts all h hall
    rw [hcombined contracts all h hall, List.map_map]
    rfl
  · intro contracts all h hall
    rw [hcombined contracts all h hall, List.forall₂_map_left_iff, List.forall₂_same]
    intro r _
    exact List.filter_sublist

end Jobs
end AuditReport
