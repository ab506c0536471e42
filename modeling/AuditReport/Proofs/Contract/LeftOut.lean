import AuditReport.Proofs.Contract.Conservation

/-!
# Contracts with nothing to tell

The reports on a contract hold no record exactly if every place of its findings is left out: the copy of
the place can be ignored, or the filter drops its record.
-/
namespace AuditReport

namespace ContractView

theorem record?_eq_none_iff {v : ContractView} {filter : Filter} {spaceLimited : Bool}
    {format name : Option String} {f : Finding} :
    (v.record? filter spaceLimited format name f).outcome = .ok none ↔
      (v.canIgnore f format name).outcome = .ok true ∨
      (v.canIgnore f format name).outcome = .ok false ∧
        ∃ m, (v.record f spaceLimited format name).outcome = .ok m ∧ filter.keeps m = false := by
  rw [record?, Noted.outcome_bind_eq_ok_iff]
  constructor
  · rintro ⟨ignored, hi, h⟩
    cases ignored with
    | true => exact Or.inl hi
    | false =>
      obtain ⟨m, hm, h⟩ := Noted.outcome_bind_eq_ok_iff.mp h
      cases hk : filter.keeps m with
      | true => rw [hk] at h; cases h
      | false => exact Or.inr ⟨hi, m, hm, hk⟩
  · rintro (hi | ⟨hi, m, hm, hk⟩)
    · exact ⟨true, hi, rfl⟩
    · refine ⟨false, hi, Noted.outcome_bind_eq_ok_iff.mpr ⟨m, hm, ?_⟩⟩
      rw [hk]
      rfl

end ContractView

namespace Place

/-- The copy of the place can be ignored in its group, or the filter drops the record that it makes
there. -/
def LeftOut (config : ReportConfig) (p : Place) : Prop :=
  ∃ v groups g, ContractView.ofArtifact p.artifact = .ok v ∧ p.result.group.outcome = .ok groups ∧
    g ∈ groups ∧ p.copy ∈ g.findings ∧
    ((v.canIgnore p.copy g.format (some g.source)).outcome = .ok true ∨
      (v.canIgnore p.copy g.format (some g.source)).outcome = .ok false ∧
      ∃ m, (v.record p.copy config.spaceLimited g.format (some g.source)).outcome = .ok m ∧
        config.filter.keeps m = false)

end Place

namespace Job

variable {config : ReportConfig} {j : Job} {c : ContractReport}

/-- In a job that succeeds, every copy of a finding is found to make a record or none. -/
theorem exists_record? (h : (ContractReport.ofResults j.artifact j.results config).outcome = .ok c)
    {r : AnalysisResult} (hr : r ∈ j.results) : ∃ v groups,
      ContractView.ofArtifact j.artifact = .ok v ∧ r.group.outcome = .ok groups ∧
      ∀ g ∈ groups, ∀ f ∈ g.findings, ∃ o,
        (v.record? config.filter config.spaceLimited g.format (some g.source) f).outcome = .ok o := by
  obtain ⟨v, hv, h⟩ := Noted.outcome_bind_eq_ok_iff.mp h
  obtain ⟨reports, hreports, _⟩ := Noted.outcome_bind_eq_ok_iff.mp h
  obtain ⟨rs, _, hrs⟩ := exists_right_of_forall₂ (Noted.outcome_each_eq_ok_iff.mp hreports) hr
  obtain ⟨groups, hgroups, hfiles⟩ := Noted.outcome_bind_eq_ok_iff.mp hrs
  refine ⟨v, groups, hv, hgroups, ?_⟩
  intro g hg f hf
  obtain ⟨rep, _, hrep⟩ := exists_right_of_forall₂ (Noted.outcome_each_eq_ok_iff.mp hfiles) hg
  obtain ⟨found, hfound, _⟩ := Noted.outcome_bind_eq_ok_iff.mp hrep
  obtain ⟨o, _, ho⟩ := exists_right_of_forall₂ (Noted.outcome_each_eq_ok_iff.mp hfound) hf
  exact ⟨o, ho⟩

theorem told?_eq_none_iff (h : (ContractReport.ofResults j.artifact j.results config).outcome = .ok c)
    {p : Place} (hp : p ∈ j.places) : p.told? config = none ↔ p.LeftOut config := by
  obtain ⟨r, hr, hp⟩ := List.mem_flatMap.mp hp
  obtain ⟨q, hq, rfl⟩ := List.mem_map.mp hp
  obtain ⟨v, groups, hv, hgroups, hall⟩ := exists_record? h hr
  have htold : ∀ g ∈ groups, r.home q.2 = .ok g.source →
      (Place.told? config ⟨j.artifact, r, q.1, q.2⟩ = none ↔
        (v.record? config.filter config.spaceLimited g.format (some g.source)
          (q.1.single q.2)).outcome = .ok none) := by
    intro g hg hhome
    have hcopy := (AnalysisResult.mem_findings_group hgroups hg).mpr ⟨q, hq, rfl, hhome⟩
    obtain ⟨o, ho⟩ := hall g hg _ hcopy
    simp only [Place.told?, hv, Except.toOption, Option.bind_some]
    rw [ContractView.told?_of_home hgroups hg hhome, ho]
    cases o <;> simp [Except.toOption]
  constructor
  · intro hnone
    obtain ⟨g, hg, hhome⟩ := AnalysisResult.exists_home hgroups hq
    have hcopy := (AnalysisResult.mem_findings_group hgroups hg).mpr ⟨q, hq, rfl, hhome⟩
    exact ⟨v, groups, g, hv, hgroups, hg, hcopy,
      ContractView.record?_eq_none_iff.mp ((htold g hg hhome).mp hnone)⟩
  · rintro ⟨w, gs, g, hw, hgs, hg, hcopy, hout⟩
    cases hv.symm.trans hw
    cases hgroups.symm.trans hgs
    have hhome := AnalysisResult.home_of_single_mem hgroups hg hcopy
    exact (htold g hg hhome).mpr (ContractView.record?_eq_none_iff.mpr hout)

/-- The reports on a job hold no record exactly if all places are left out. -/
theorem forall_records_eq_nil_iff
    (h : (ContractReport.ofResults j.artifact j.results config).outcome = .ok c) :
    (∀ r ∈ c.reports, r.records = []) ↔ ∀ p ∈ j.places, p.LeftOut config := by
  have hnil : (∀ r ∈ c.reports, r.records = []) ↔ c.reports.flatMap (·.withPath) = [] := by
    simp [FileReport.withPath]
  have hperm := withPath_ofResults h
  rw [hnil]
  constructor
  · intro hempty p hp
    rw [hempty] at hperm
    exact (told?_eq_none_iff h hp).mp (List.filterMap_eq_nil_iff.mp hperm.nil_eq.symm p hp)
  · intro hout
    have hnone : j.places.filterMap (Place.told? config) = [] :=
      List.filterMap_eq_nil_iff.mpr fun p hp => (told?_eq_none_iff h hp).mpr (hout p hp)
    rw [hnone] at hperm
    exact hperm.eq_nil

end Job
end AuditReport
