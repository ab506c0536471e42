import AuditReport.Proofs.Contract.Conservation
import AuditReport.Proofs.Contract.Positions

/-!
# Well-formed records

Whatever the numbers of a location are, and whichever line table they are looked up in, a record either
has no position or has one that is in the text of a source, with its end behind it in the same text. Every
record of a report has this form, and merging the reports of contracts keeps the records as they are.
-/
namespace AuditReport

def Artifact.HasSpan (a : Artifact) (s : Span) : Prop :=
  s = .unresolved ∨ ∃ d ∈ a.sources, ∃ o, s.StartsAt (a.textOf d.1 d.2) o

theorem Resolver.exists_mem_of_lineTable {r : Resolver} {name : Option String} {t : LineTable}
    (h : (r.lineTable name).outcome = .ok (some t)) : ∃ d ∈ r.lineTables, d.2 = t := by
  rw [lineTable] at h
  cases hnamed : name.bind (Table.byName? r.lineTables) with
  | some u =>
    simp only [hnamed] at h
    cases h
    obtain ⟨_, _, hu⟩ := Option.bind_eq_some_iff.mp hnamed
    exact Table.exists_mem_of_byName? hu
  | none =>
    simp only [hnamed] at h
    cases htables : r.lineTables with
    | nil =>
      simp only [htables] at h
      cases h
    | cons d tables =>
      simp only [htables] at h
      cases h
      exact ⟨d, List.mem_cons_self, rfl⟩

namespace ContractView

variable {a : Artifact} {v : ContractView} {format name : Option String} {s : Span}

theorem hasSpan_of_lineTable (hv : ofArtifact a = .ok v) {t : LineTable}
    (h : (v.resolver.lineTable name).outcome = .ok (some t)) (start length : Int) :
    a.HasSpan (t.span start length) := by
  obtain ⟨_, _, _, _, rfl⟩ := ofArtifact_eq_ok_iff.mp hv
  obtain ⟨_, htable, rfl⟩ := Resolver.exists_mem_of_lineTable h
  obtain ⟨d, hd, rfl⟩ := List.mem_map.mp htable
  exact (LineTable.span_cases (a.textOf d.1 d.2) start length).imp_right fun hs => ⟨d, hd, start, hs⟩

theorem hasSpan_of_resolver (hv : ofArtifact a = .ok v) {location : String}
    (h : (v.resolver.resolve location format name).outcome = .ok s) : a.HasSpan s := by
  obtain ⟨found, _, h⟩ := Noted.outcome_bind_eq_ok_iff.mp h
  cases found with
  | none =>
    cases h
    exact Or.inl rfl
  | some e =>
    by_cases hsource : e.hasSource = true
    · simp only [if_pos hsource] at h
      obtain ⟨table, htable, h⟩ := Noted.outcome_bind_eq_ok_iff.mp h
      cases table with
      | none =>
        cases h
        exact Or.inl rfl
      | some t =>
        cases h
        exact hasSpan_of_lineTable hv htable e.start e.length
    · simp only [if_neg hsource] at h
      cases h
      exact Or.inl rfl

/-- The first location that resolves gives the span, and none of them gives one without a place. -/
theorem hasSpan_of_resolveFirst (hv : ofArtifact a = .ok v) {locations : List Location}
    (h : (v.resolveFirst format name locations).outcome = .ok s) : a.HasSpan s := by
  induction locations with
  | nil =>
    cases h
    exact Or.inl rfl
  | cons l locations ih =>
    obtain ⟨t, ht, h⟩ := Noted.outcome_bind_eq_ok_iff.mp h
    by_cases hresolved : t.isResolved = true
    · simp only [if_pos hresolved] at h
      cases h
      exact hasSpan_of_resolver hv ht
    · simp only [if_neg hresolved] at h
      exact ih h

end ContractView

namespace Record

/-- The position of the record is in a text, and its end, if it has one, is behind it in the same text. -/
structure LiesWithin (m : Record) (text : String) : Prop where
  line : 1 ≤ m.line
  column : 0 ≤ m.column
  start : ∃ o, HasPlace text o ⟨m.line, m.column⟩
  stop : m.endLine = none ∧ m.endColumn = none ∨
    ∃ q : LineColumn, m.endLine = some q.line ∧ m.endColumn = some q.column ∧
      LineColumn.before ⟨m.line, m.column⟩ q ∧ ∃ o, HasPlace text o q

structure WellFormed (a : Artifact) (m : Record) : Prop where
  severity : m.severity = 1 ∨ m.severity = 2
  severity_eq_two_iff : m.severity = 2 ↔ m.engineSeverity = some "High"
  fatal : m.fatal = false
  ruleId : m.ruleId ≠ ""
  /-- Line -1, column 0 and no end, or a position in the text of one source. -/
  position : m.LiesAt .unresolved ∨ ∃ d ∈ a.sources, m.LiesWithin (a.textOf d.1 d.2)

theorem LiesAt.liesWithin {m : Record} {s : Span} (h : m.LiesAt s) {text : String} {o : Int}
    (hs : s.StartsAt text o) : m.LiesWithin text := by
  have hstart := hs.start
  rw [← h.start] at hstart
  refine ⟨hstart.one_le_line, hstart.column_nonneg, ⟨o, hstart⟩, ?_⟩
  rw [h.endLine, h.endColumn]
  cases hstop : s.stop with
  | none => exact Or.inl ⟨rfl, rfl⟩
  | some q =>
    obtain ⟨hbefore, hplace⟩ := hs.stop q hstop
    rw [← h.start] at hbefore
    exact Or.inr ⟨q, rfl, rfl, hbefore, hplace⟩

theorem wellFormed_recordAt {a : Artifact} {s : Span} (hs : a.HasSpan s) (f : Finding)
    (spaceLimited : Bool) : (f.recordAt spaceLimited s).WellFormed a where
  severity := (Level.ofEngine f.severity).toInt_eq_one_or_two
  severity_eq_two_iff := Level.toInt_ofEngine_eq_two_iff f.severity
  fatal := rfl
  ruleId := Text.orDefault_ne_empty f.swcId (by decide)
  position := by
    have hlies := f.liesAt_recordAt spaceLimited s
    rcases hs with rfl | ⟨d, hd, o, hs⟩
    · exact Or.inl hlies
    · exact Or.inr ⟨d, hd, hlies.liesWithin hs⟩

end Record

theorem ContractView.record_wellFormed {a : Artifact} {v : ContractView} (hv : ofArtifact a = .ok v)
    {f : Finding} {spaceLimited : Bool} {format name : Option String} {m : Record}
    (h : (v.record f spaceLimited format name).outcome = .ok m) : m.WellFormed a := by
  rw [outcome_record] at h
  cases hresolve : (v.resolve f format name).outcome with
  | error fault =>
    rw [hresolve] at h
    cases h
  | ok s =>
    rw [hresolve] at h
    cases h
    exact Record.wellFormed_recordAt (hasSpan_of_resolveFirst hv hresolve) f spaceLimited

namespace ContractReport

variable {a : Artifact} {c : ContractReport}

def IsOn (a : Artifact) (c : ContractReport) : Prop :=
  ∃ results config, (ofResults a results config).outcome = .ok c

theorem IsOn.wellFormed (h : IsOn a c) {r : FileReport} (hr : r ∈ c.reports) {m : Record}
    (hm : m ∈ r.records) : m.WellFormed a := by
  obtain ⟨results, config, h⟩ := h
  obtain ⟨v, hv, hgroups, hperm⟩ := withPath_ofResults h
  have hmem := hperm.mem_iff.mp (FileReport.mem_flatMap_withPath.mpr ⟨r, hr, rfl, hm⟩)
  obtain ⟨result, hresult, hmem⟩ := List.mem_flatMap.mp hmem
  obtain ⟨p, hp, htold⟩ := List.mem_filterMap.mp hmem
  obtain ⟨groups, hgroup⟩ := hgroups result hresult
  obtain ⟨_, _, _, _, _, hrecord, _⟩ := (ContractView.told?_eq_some_iff hgroup hp).mp htold
  exact ContractView.record_wellFormed hv hrecord

end ContractReport

structure WellFormedReports (artifacts : List Artifact) (contracts : List ContractReport) : Prop where
  own : List.Forall₂ (fun a c => ∀ r ∈ c.reports, ∀ m ∈ r.records, m.WellFormed a) artifacts contracts
  combined : ∀ r ∈ combinedReports contracts, ∀ m ∈ r.records, ∃ a ∈ artifacts, m.WellFormed a

theorem reports_wellFormed {artifacts : List Artifact} {contracts : List ContractReport}
    (h : List.Forall₂ ContractReport.IsOn artifacts contracts) :
    WellFormedReports artifacts contracts where
  own := by
    apply h.imp
    intro a c hc r hr m hm
    exact hc.wellFormed hr hm
  combined := by
    intro r hr m hm
    obtain ⟨s, hs, _, hm⟩ := FileReport.exists_mem_combine_iff.mp ⟨r, hr, rfl, hm⟩
    obtain ⟨c, hc, hs⟩ := List.mem_flatMap.mp hs
    obtain ⟨a, ha, hac⟩ := exists_left_of_forall₂ h hc
    exact ⟨a, ha, hac.wellFormed hs hm⟩

/-- The two contracts report on one file, and one of their records has no position. -/
theorem sharedJobs_wellFormed : ∃ contracts,
    List.Forall₂ ContractReport.IsOn [twoLines "A", twoLines "B"] contracts ∧
      WellFormedReports [twoLines "A", twoLines "B"] contracts :=
  have hA : ContractReport.IsOn (twoLines "A") _ := ⟨[threeFindings], withoutRule102, rfl⟩
  have hB : ContractReport.IsOn (twoLines "B") _ := ⟨[threeFindings], withoutRule102, rfl⟩
  ⟨_, .cons hA (.cons hB .nil), reports_wellFormed (.cons hA (.cons hB .nil))⟩

end AuditReport
