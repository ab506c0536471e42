import AuditReport.Contract.Report
import AuditReport.Proofs.Location.BytecodeLocation
import AuditReport.Proofs.Source.Places

/-!
# Positions of records

A record is filed under the source of its group, but a bytecode location is counted out in the source
that its entry names. So the position is one in the text of the reported file for text locations, and for
bytecode locations exactly as far as their entries name that file or none.
-/
namespace AuditReport

open SourceMap (Format)

/-- A span has its start at an offset of a text and its end, if it has one, behind it in the same text. -/
structure Span.StartsAt (s : Span) (text : String) (o : Int) : Prop where
  start : HasPlace text o s.start
  stop : ∀ q, s.stop = some q → s.start.before q ∧ ∃ o', HasPlace text o' q

theorem Span.StartsAt.isResolved {s : Span} {text : String} {o : Int} (h : s.StartsAt text o) :
    s.isResolved = true := by
  have hline := h.start.one_le_line
  rw [Span.isResolved, decide_eq_true_iff]
  omega

theorem LineTable.span_cases (text : String) (start length : Int) :
    (ofText text).span start length = .unresolved ∨
      ((ofText text).span start length).StartsAt text start := by
  by_cases hresolved : (ofText text).span start length = .unresolved
  · exact Or.inl hresolved
  · have hcases := hresolved
    rw [span_eq_unresolved_iff, not_or] at hcases
    obtain ⟨p, hp⟩ := Option.ne_none_iff_exists'.mp hcases.1
    refine Or.inr ⟨?_, ?_⟩
    · rw [span_of_position? hp (by omega)]
      exact position?_eq_some_iff.mp hp
    · intro q hq
      obtain ⟨hstop, hbefore⟩ := span_stop hq
      exact ⟨hbefore, _, position?_eq_some_iff.mp hstop⟩

namespace Record

structure LiesAt (m : Record) (s : Span) : Prop where
  line : m.line = s.start.line
  column : m.column = s.start.column
  endLine : m.endLine = s.stop.map (·.line)
  endColumn : m.endColumn = s.stop.map (·.column)

theorem LiesAt.start {m : Record} {s : Span} (h : m.LiesAt s) : ⟨m.line, m.column⟩ = s.start := by
  rw [h.line, h.column]

structure Tells (m : Record) (e : SourceMap.Entry) (text : String) : Prop where
  counted : 0 ≤ e.length → m.LiesAt (countedSpan (utf8Bytes text) e.start e.length)
  negative : e.length < 0 → m.LiesAt .unresolved
  place : ¬ m.LiesAt .unresolved → HasPlace text e.start ⟨m.line, m.column⟩

theorem tells_of_liesAt_span {m : Record} {e : SourceMap.Entry} {text : String}
    (h : m.LiesAt ((LineTable.ofText text).span e.start e.length)) : m.Tells e text where
  counted hlength := by
    rw [← LineTable.span_ofText text e.start hlength]
    exact h
  negative hlength := by
    rwa [LineTable.span_eq_unresolved_iff.mpr (Or.inr hlength)] at h
  place hplace := by
    rcases LineTable.span_cases text e.start e.length with hspan | hspan
    · rw [hspan] at h
      exact absurd h hplace
    · rw [h.start]
      exact hspan.start

end Record

def Finding.recordAt (f : Finding) (spaceLimited : Bool) (s : Span) : Record where
  ruleId := Text.orDefault f.swcId missingId
  message := f.description.message spaceLimited
  severity := (Level.ofEngine f.severity).toInt
  engineSeverity := f.severity
  line := s.start.line
  column := s.start.column
  endLine := s.stop.map (·.line)
  endColumn := s.stop.map (·.column)
  fatal := false

theorem Finding.liesAt_recordAt (f : Finding) (spaceLimited : Bool) (s : Span) :
    (f.recordAt spaceLimited s).LiesAt s :=
  ⟨rfl, rfl, rfl, rfl⟩

/-- A range without a source has no place in any text. -/
theorem Resolver.resolve_ofText {r : Resolver} {location text : String} {format name : Option String}
    {e : SourceMap.Entry} (h : (r.entry location format).outcome = .ok (some e))
    (ht : (r.lineTable (r.target format e name)).outcome = .ok (some (LineTable.ofText text))) :
    (r.resolve location format name).outcome =
      .ok ((LineTable.ofText text).span e.start e.length) := by
  cases hsource : e.hasSource with
  | true => exact resolve_of_lineTable h hsource ht
  | false =>
    have hspan : (LineTable.ofText text).span e.start e.length = .unresolved := by
      rw [← Bool.not_eq_true, SourceMap.Entry.hasSource_eq_true_iff] at hsource
      rw [LineTable.span_eq_unresolved_iff, LineTable.position?_eq_none_iff]
      omega
    rw [hspan]
    exact resolve_of_not_hasSource h hsource

namespace ContractView

variable {a : Artifact} {v : ContractView} {format name : Option String} {kind : Format}
  {e : SourceMap.Entry} {path : String} {l : Location}

theorem outcome_record (v : ContractView) (f : Finding) (spaceLimited : Bool)
    (format name : Option String) : (v.record f spaceLimited format name).outcome =
      (v.resolve f format name).outcome.map (f.recordAt spaceLimited) := by
  rw [record, Noted.outcome_bind]
  cases (v.resolve f format name).outcome <;> rfl

/-- A finding at one location is resolved as the location is. -/
theorem outcome_resolve_of_span {f : Finding} (hf : f.locations = [l]) {s : Span}
    (h : (v.resolver.resolve l.sourceMap (Text.orElse l.format format) name).outcome = .ok s)
    (hs : s = .unresolved ∨ s.isResolved = true) : (v.resolve f format name).outcome = .ok s := by
  rw [resolve, hf, resolveFirst, Noted.outcome_bind, h]
  rcases hs with rfl | hs
  · rfl
  · change (if s.isResolved = true then (_ : Noted Span) else _).outcome = _
    rw [if_pos hs]
    rfl

/-- The source in whose text an entry is counted out, for a location that is attributed to a source. -/
def fileOf (v : ContractView) (kind : Format) (e : SourceMap.Entry) (source : String) : String :=
  match kind with
  | .bytecode => (v.resolver.sourceName? e).getD source
  | .text => source

theorem fileOf_mem (hv : ofArtifact a = .ok v) (hpath : path ∈ a.sources.map (·.1)) (kind : Format)
    (e : SourceMap.Entry) : v.fileOf kind e path ∈ a.sources.map (·.1) := by
  cases kind with
  | text => exact hpath
  | bytecode =>
    cases hsource : v.resolver.sourceName? e with
    | none =>
      rw [fileOf, hsource]
      exact hpath
    | some p =>
      rw [fileOf, hsource]
      exact mem_sources_of_sourceName? hv hsource

theorem target_eq_fileOf (hpaths : ∀ s ∈ a.sources, s.1 ≠ "") (hv : ofArtifact a = .ok v)
    (hformat : format.bind Format.ofName? = some kind) (hpath : path ∈ a.sources.map (·.1)) :
    v.resolver.target format e (some path) = some (v.fileOf kind e path) := by
  have hne : ∀ p ∈ a.sources.map (·.1), p ≠ "" := List.forall_mem_map.mpr hpaths
  cases kind with
  | text =>
    rw [Resolver.target_text hformat, Text.orElse_some_of_ne_empty (hne path hpath)]
    rfl
  | bytecode =>
    cases hsource : v.resolver.sourceName? e with
    | none =>
      rw [Resolver.target, if_pos hformat, fileOf, hsource]
      rfl
    | some p =>
      have hmem := mem_sources_of_sourceName? hv hsource
      rw [Resolver.target_of_sourceName? hformat hsource (hne p hmem), fileOf, hsource]
      rfl

theorem path_fileReport {filter : Filter} {spaceLimited : Bool} {g : FindingGroup} {r : FileReport}
    (h : (v.fileReport filter spaceLimited g).outcome = .ok r) : r.path = g.source := by
  obtain ⟨_, _, h⟩ := Noted.outcome_bind_eq_ok_iff.mp h
  cases h
  rfl

/-- The position of a finding at one location is that of its entry in the text of the source which the
entry is counted out in, and is filed under the source of the group. -/
theorem exists_record_tells (hpaths : ∀ s ∈ a.sources, s.1 ≠ "") (hv : ofArtifact a = .ok v)
    {g : FindingGroup} (hsource : g.source ∈ a.sources.map (·.1)) {f : Finding}
    (hf : f.locations = [l])
    (hformat : (Text.orElse l.format g.format).bind Format.ofName? = some kind)
    (he : (v.resolver.entryIn l.sourceMap kind).outcome = .ok (some e)) (spaceLimited : Bool) :
    (∃ m s, (v.record f spaceLimited g.format (some g.source)).outcome = .ok m ∧
      Table.get? a.sources (v.fileOf kind e g.source) = some s ∧
      m.Tells e (a.textOf (v.fileOf kind e g.source) s)) ∧
    ∀ filter r, (v.fileReport filter spaceLimited g).outcome = .ok r → r.path = g.source := by
  obtain ⟨s, hs, ht⟩ := exists_outcome_lineTable hv (fileOf_mem hv hsource kind e)
  have hentry : (v.resolver.entry l.sourceMap (Text.orElse l.format g.format)).outcome =
      .ok (some e) := by
    rw [Resolver.entry_of_format hformat, he]
  rw [← target_eq_fileOf hpaths hv hformat hsource] at ht
  have hspan := Resolver.resolve_ofText hentry ht
  have hresolve := outcome_resolve_of_span hf hspan
    ((LineTable.span_cases _ e.start e.length).imp_right Span.StartsAt.isResolved)
  refine ⟨⟨_, s, ?_, hs, Record.tells_of_liesAt_span (f.liesAt_recordAt spaceLimited _)⟩,
    fun _ _ => path_fileReport⟩
  rw [outcome_record, hresolve]
  rfl

/-- Two sources, and code of one instruction that comes from the second. -/
def fromSecond : Artifact where
  name := "C"
  bytecode := ""
  deployedBytecode := "00"
  sourceMap := ""
  deployedSourceMap := "2:1:1"
  sourcePath := "a.sol"
  source := ""
  ast := none
  legacyAst := none
  compilerVersion := none
  sources := [("a.sol", ⟨"x\ny\nz", none, none, some 0⟩), ("b.sol", ⟨"xxxxx", none, none, some 1⟩)]

def fromSecondView : ContractView where
  artifact := fromSecond
  resolver := ⟨.ofBytes [0], [⟨2, 1, 1, .regular⟩], fromSecond.lineTables, ["a.sol", "b.sol"]⟩
  trees := fromSecond.trees

theorem ofArtifact_fromSecond : ofArtifact fromSecond = .ok fromSecondView :=
  ofArtifact_of_pairwise rfl rfl (by decide)

def atFirst : Finding :=
  ⟨some "101", none, ⟨"h", ""⟩, some "High", [⟨"0:1:0", none, none, []⟩], []⟩

def firstGroup : FindingGroup :=
  ⟨0, "a.sol", none, some Format.bytecode.name, [atFirst]⟩

/-- The finding is filed under the first source, with the position of the instruction in the second. -/
theorem fromSecond_record_tells :
    (∃ m s, (fromSecondView.record atFirst false firstGroup.format (some "a.sol")).outcome = .ok m ∧
      Table.get? fromSecond.sources "b.sol" = some s ∧
      m.Tells ⟨2, 1, 1, .regular⟩ (fromSecond.textOf "b.sol" s)) ∧
    ∀ filter r, (fromSecondView.fileReport filter false firstGroup).outcome = .ok r →
      r.path = "a.sol" := by
  have hformat : firstGroup.format.bind Format.ofName? = some .bytecode := rfl
  have he : (fromSecondView.resolver.entryIn "0:1:0" .bytecode).outcome =
      .ok (some ⟨2, 1, 1, .regular⟩) := rfl
  have hsource : firstGroup.source ∈ fromSecond.sources.map (·.1) := by decide
  exact exists_record_tells (l := ⟨"0:1:0", none, none, []⟩) (by decide) ofArtifact_fromSecond hsource
    rfl hformat he false

/-- A reported position need not be one in the reported file. -/
theorem not_forall_record_liesAt_group : ¬ ∀ (a : Artifact) (v : ContractView) (g : FindingGroup)
    (f : Finding) (l : Location) (kind : Format) (e : SourceMap.Entry) (spaceLimited : Bool)
    (m : Record), (∀ s ∈ a.sources, s.1 ≠ "") → ofArtifact a = .ok v →
      g.source ∈ a.sources.map (·.1) → f ∈ g.findings → f.locations = [l] →
      (Text.orElse l.format g.format).bind Format.ofName? = some kind →
      (v.resolver.entryIn l.sourceMap kind).outcome = .ok (some e) →
      (v.record f spaceLimited g.format (some g.source)).outcome = .ok m →
      ¬ m.LiesAt .unresolved → ∃ s, Table.get? a.sources g.source = some s ∧
        m.LiesAt (countedSpan (utf8Bytes (a.textOf g.source s)) e.start e.length) := by
  intro h
  have hrecord : (fromSecondView.record atFirst false firstGroup.format (some "a.sol")).outcome =
      .ok (atFirst.recordAt false ⟨⟨1, 2⟩, some ⟨1, 3⟩⟩) := rfl
  have hplace : ¬ (atFirst.recordAt false ⟨⟨1, 2⟩, some ⟨1, 3⟩⟩).LiesAt .unresolved := by
    intro hlies
    exact absurd hlies.line (by decide)
  obtain ⟨s, hs, hlies⟩ := h fromSecond fromSecondView firstGroup atFirst _ .bytecode
    ⟨2, 1, 1, .regular⟩ false _ (by decide) ofArtifact_fromSecond (by decide) List.mem_cons_self rfl
    rfl rfl hrecord hplace
  cases hs
  rw [← LineTable.span_ofText _ _ (by decide)] at hlies
  exact absurd hlies.line (by decide)

end ContractView
end AuditReport
