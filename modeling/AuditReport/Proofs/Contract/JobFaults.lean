import AuditReport.Proofs.Bytecode.LoneDigit
import AuditReport.Proofs.Contract.Schedule
import AuditReport.Proofs.SourceMap.Fields
import AuditReport.Proofs.Syntax.Walkable

/-!
# How jobs fail

A job fails by a fault that is told, unless its bytecode ends in a digit alone or a search comes to a
node of a syntax tree that cannot be walked.
-/
namespace AuditReport

def Fault.Told (e : Fault) : Prop :=
  e.isReported = true

theorem FaultsIn.mono {α : Type} {P Q : Fault → Prop} {x : Except Fault α} (h : FaultsIn P x)
    (hPQ : ∀ e, P e → Q e) : FaultsIn Q x :=
  fun e he => hPQ e (h e he)

namespace SourceMap

theorem integer_told (location : String) (s : List Char) : FaultsIn Fault.Told (integer location s) := by
  unfold integer
  cases Text.Numeral.read? s with
  | none => exact .error rfl
  | some n => exact .ok n

theorem inherit_told (location : String) (fields : List (List Char)) (previous : Entry) :
    FaultsIn Fault.Told (inherit location fields previous) := by
  intro e he
  rcases inherit_eq_error_iff.mp he with ⟨_, rfl⟩ | ⟨_, _, rfl⟩
  · rfl
  · rfl

theorem decodeFrom_told (segments : List (List Char)) (previous : Entry) :
    FaultsIn Fault.Told (decodeFrom previous segments) := by
  induction segments generalizing previous with
  | nil => exact .ok []
  | cons s segments ih =>
    exact (inherit_told _ _ _).bind fun e _ => (ih e).bind fun _ _ => .ok _

theorem decode_told (compressed : String) : FaultsIn Fault.Told (decode compressed) := by
  unfold decode
  split_ifs
  · exact .ok []
  · exact decodeFrom_told _ _

theorem entryAt_told (entries : List Entry) (instruction : Int) :
    FaultsIn Fault.Told (entryAt entries instruction) := by
  unfold entryAt
  split_ifs
  · exact .error rfl
  · cases entries[instruction.toNat]? with
    | none => exact .error rfl
    | some e => exact .ok e

theorem read_told (segment : String) : FaultsIn Fault.Told (Entry.read segment) := by
  unfold Entry.read
  dsimp only
  split
  · exact inherit_told _ _ _
  · exact .error rfl

theorem fileIndex_told (location : String) : FaultsIn Fault.Told (fileIndex location) := by
  unfold fileIndex
  split
  · exact .ok none
  · split_ifs
    · exact .ok none
    · exact (integer_told _ _).map some

end SourceMap

theorem AnalysisResult.group_told (r : AnalysisResult) : FaultsIn Fault.Told r.group.outcome := by
  rw [outcome_group]
  apply FaultsIn.map
  apply FaultsIn.outcome_each
  intro p _
  refine FaultsIn.outcome_bind ?_ fun _ _ => .ok _
  cases p.2 with
  | none => exact .ok 0
  | some l =>
    rw [outcome_groupOf_some]
    exact (SourceMap.fileIndex_told _).map _

namespace Resolver

variable (r : Resolver) (location : String)

theorem entryIn_told (f : SourceMap.Format) : FaultsIn Fault.Told (r.entryIn location f).outcome := by
  cases f with
  | bytecode =>
    rw [entryIn]
    apply FaultsIn.outcome_bind
    · rw [Noted.outcome_lift]
      exact SourceMap.integer_told _ _
    · intro offset _
      cases r.instructions.find? offset with
      | none => exact .ok none
      | some i =>
        apply FaultsIn.outcome_bind
        · rw [Noted.outcome_lift]
          exact SourceMap.entryAt_told _ _
        · exact fun e _ => .ok (some e)
  | text =>
    rw [entryIn]
    apply FaultsIn.outcome_bind
    · rw [Noted.outcome_lift]
      exact SourceMap.read_told _
    · exact fun e _ => .ok (some e)

theorem resolve_told (format name : Option String) :
    FaultsIn Fault.Told (r.resolve location format name).outcome := by
  apply FaultsIn.outcome_bind
  · unfold entry
    cases format.bind SourceMap.Format.ofName? with
    | none => exact .ok none
    | some f => exact r.entryIn_told location f
  · intro found _
    cases found with
    | none => exact .ok _
    | some e =>
      dsimp only
      split_ifs
      · apply FaultsIn.outcome_bind
        · unfold lineTable
          cases (r.target format e name).bind (Table.byName? r.lineTables) with
          | some t => exact .ok (some t)
          | none =>
            cases r.lineTables with
            | nil => exact .ok none
            | cons t ts => exact .ok (some t.2)
        · intro table _
          cases table with
          | none => exact .ok _
          | some t => exact .ok _
      · exact .ok _

end Resolver

theorem ContractView.record_told (v : ContractView) (f : Finding) (spaceLimited : Bool)
    (format name : Option String) :
    FaultsIn Fault.Told (v.record f spaceLimited format name).outcome := by
  have hresolve : ∀ ls, FaultsIn Fault.Told (v.resolveFirst format name ls).outcome := by
    intro ls
    induction ls with
    | nil => exact .ok _
    | cons l ls ih =>
      apply FaultsIn.outcome_bind (v.resolver.resolve_told _ _ _)
      intro span _
      split_ifs
      · exact .ok span
      · exact ih
  exact FaultsIn.outcome_bind (hresolve f.locations) fun _ _ => .ok _

section Views

variable {P : Fault → Prop} (htold : ∀ e : Fault, e.Told → P e) {v : ContractView}
  (htrees : ∀ t ∈ v.trees, t.2.FailsIn P)

include htold htrees

namespace ContractView

theorem isIgnorableAt_faultsIn (location : String) (format name : Option String) :
    FaultsIn P (v.isIgnorableAt location format name).outcome := by
  unfold isIgnorableAt
  cases format.bind SourceMap.Format.ofName? with
  | none => exact .ok false
  | some kind =>
    apply FaultsIn.outcome_bind ((v.resolver.entryIn_told location kind).mono htold)
    intro found _
    cases found with
    | none => exact .ok false
    | some e =>
      dsimp only
      cases v.searched kind e name with
      | none => exact .ok false
      | some source =>
        dsimp only
        rw [Syntax.outcome_isIgnorable]
        exact Syntax.answer_faultsIn htrees e source

theorem canIgnore_faultsIn (f : Finding) (format name : Option String) :
    FaultsIn P (v.canIgnore f format name).outcome :=
  FaultsIn.outcome_any fun _ _ => isIgnorableAt_faultsIn htold htrees _ _ _

theorem record?_faultsIn (filter : Filter) (spaceLimited : Bool) (format name : Option String)
    (f : Finding) : FaultsIn P (v.record? filter spaceLimited format name f).outcome := by
  apply FaultsIn.outcome_bind (canIgnore_faultsIn htold htrees f format name)
  intro ignored _
  cases ignored with
  | true => exact .ok none
  | false =>
    exact FaultsIn.outcome_bind ((v.record_told f spaceLimited format name).mono htold)
      fun _ _ => .ok _

end ContractView

theorem ContractReport.resultReports_faultsIn (config : ReportConfig) (r : AnalysisResult) :
    FaultsIn P (resultReports v config r).outcome := by
  apply FaultsIn.outcome_bind (r.group_told.mono htold)
  intro groups _
  apply FaultsIn.outcome_each
  intro g _
  apply FaultsIn.outcome_bind
  · exact FaultsIn.outcome_each fun f _ => v.record?_faultsIn htold htrees _ _ _ _ f
  · exact fun _ _ => .ok _

end Views

namespace ContractView

theorem fileReport_eq_error_iff {v : ContractView} {filter : Filter} {spaceLimited : Bool}
    {g : FindingGroup} {e : Fault} : (v.fileReport filter spaceLimited g).outcome = .error e ↔
      ∃ f, Reached (fun f => (v.record? filter spaceLimited g.format (some g.source) f).outcome)
        g.findings f ∧ (v.record? filter spaceLimited g.format (some g.source) f).outcome = .error e := by
  rw [fileReport, Noted.outcome_bind_ok_eq_error_iff fun _ => ⟨_, rfl⟩,
    Noted.outcome_each_eq_error_iff]

/-- A record is not made for want of a list of sub-nodes just if the search for the finding is. -/
theorem record?_eq_notIterable_iff {v : ContractView} {filter : Filter} {spaceLimited : Bool}
    {format name : Option String} {f : Finding} :
    (v.record? filter spaceLimited format name f).outcome = .error (.defect .notIterable) ↔
      (v.canIgnore f format name).outcome = .error (.defect .notIterable) := by
  rw [record?, Noted.outcome_bind_eq_error_iff, or_iff_left]
  rintro ⟨ignored, _, he⟩
  have hfaults : FaultsIn Fault.Told (if ignored then pure none else do
      let m ← v.record f spaceLimited format name
      return if filter.keeps m then some m else none : Noted (Option Record)).outcome := by
    cases ignored with
    | true => exact .ok none
    | false => exact FaultsIn.outcome_bind (v.record_told _ _ _ _) fun _ _ => .ok _
  cases hfaults _ he

end ContractView

theorem ContractReport.resultReports_eq_error_iff {v : ContractView} {config : ReportConfig}
    {r : AnalysisResult} {e : Fault} : (resultReports v config r).outcome = .error e ↔
      r.group.outcome = .error e ∨ ∃ groups, r.group.outcome = .ok groups ∧
        ∃ g, Reached (fun g => (v.fileReport config.filter config.spaceLimited g).outcome) groups g ∧
          (v.fileReport config.filter config.spaceLimited g).outcome = .error e := by
  rw [resultReports, Noted.outcome_bind_eq_error_iff]
  refine or_congr_right (exists_congr fun groups => and_congr_right fun _ => ?_)
  rw [Noted.outcome_each_eq_error_iff]

theorem ContractView.ofArtifact_faultsIn {P : Fault → Prop} (htold : ∀ e : Fault, e.Told → P e)
    {a : Artifact} (hdigit : Bytecode.EndsAlone a.deployedBytecode → P (.defect .danglingDigit)) :
    FaultsIn P (ofArtifact a) := by
  apply FaultsIn.bind
  · apply FaultsIn.bind
    · intro e he
      rcases Bytecode.decode_eq_error he with ⟨flaw, rfl⟩ | ⟨rfl, halone⟩
      · exact htold _ rfl
      · exact hdigit halone
    · exact fun _ _ => .ok _
  · intro instructions _
    exact ((SourceMap.decode_told _).mono htold).bind fun _ _ => .ok _

namespace Job

open Bytecode (EndsAlone)

variable {config : ReportConfig} {j : Job}

theorem outcome_faultsIn {P : Fault → Prop} (htold : ∀ e : Fault, e.Told → P e)
    (hdigit : EndsAlone j.artifact.deployedBytecode → P (.defect .danglingDigit))
    (htrees : ∀ t ∈ j.artifact.trees, t.2.FailsIn P) : FaultsIn P (j.outcome config) := by
  apply FaultsIn.outcome_bind
  · rw [Noted.outcome_lift]
    exact ContractView.ofArtifact_faultsIn htold hdigit
  · intro v hv
    obtain ⟨_, _, _, _, rfl⟩ := ContractView.ofArtifact_eq_ok_iff.mp hv
    apply FaultsIn.outcome_bind
    · exact FaultsIn.outcome_each fun r _ =>
        ContractReport.resultReports_faultsIn htold htrees config r
    · exact fun _ _ => .ok _

theorem outcome_of_endsAlone (h : EndsAlone j.artifact.deployedBytecode) :
    j.outcome config = .error (.defect .danglingDigit) := by
  have hview : ContractView.ofArtifact j.artifact = .error (.defect .danglingDigit) := by
    rw [ContractView.ofArtifact, Bytecode.ofHex_of_endsAlone _ h]
    rfl
  rw [outcome, ContractReport.ofResults, Noted.outcome_bind, Noted.outcome_lift, hview]
  rfl

/-- Work on the job comes to a copy of a finding whose search meets a node that cannot be walked. -/
def Blocked (config : ReportConfig) (j : Job) : Prop :=
  ∃ v r groups g f, ContractView.ofArtifact j.artifact = .ok v ∧
    Reached (fun r => (ContractReport.resultReports v config r).outcome) j.results r ∧
    r.group.outcome = .ok groups ∧
    Reached (fun g => (v.fileReport config.filter config.spaceLimited g).outcome) groups g ∧
    Reached (fun f => (v.record? config.filter config.spaceLimited g.format (some g.source) f).outcome)
      g.findings f ∧
    (v.canIgnore f g.format (some g.source)).outcome = .error (.defect .notIterable)

theorem outcome_eq_error_iff {e : Fault} : j.outcome config = .error e ↔
    ContractView.ofArtifact j.artifact = .error e ∨ ∃ v, ContractView.ofArtifact j.artifact = .ok v ∧
      ∃ r, Reached (fun r => (ContractReport.resultReports v config r).outcome) j.results r ∧
        (ContractReport.resultReports v config r).outcome = .error e := by
  rw [outcome, ContractReport.ofResults, Noted.outcome_bind_eq_error_iff, Noted.outcome_lift]
  refine or_congr_right (exists_congr fun v => and_congr_right fun _ => ?_)
  rw [Noted.outcome_bind_ok_eq_error_iff fun _ => ⟨_, rfl⟩, Noted.outcome_each_eq_error_iff]

theorem blocked_iff : j.Blocked config ↔ j.outcome config = .error (.defect .notIterable) := by
  have hview : ContractView.ofArtifact j.artifact ≠ .error (.defect .notIterable) := by
    intro he
    have hfaults : FaultsIn (fun e => e.Told ∨ e = .defect .danglingDigit)
        (ContractView.ofArtifact j.artifact) :=
      ContractView.ofArtifact_faultsIn (fun _ => Or.inl) fun _ => Or.inr rfl
    rcases hfaults _ he with htold | hdigit
    · cases htold
    · cases hdigit
  have hgroup : ∀ r : AnalysisResult, r.group.outcome ≠ .error (.defect .notIterable) :=
    fun r he => by cases r.group_told _ he
  simp only [outcome_eq_error_iff, or_iff_right hview, ContractReport.resultReports_eq_error_iff,
    or_iff_right (hgroup _), ContractView.fileReport_eq_error_iff,
    ContractView.record?_eq_notIterable_iff]
  constructor
  · rintro ⟨v, r, groups, g, f, hv, hr, hgroups, hg, hf, hblocked⟩
    exact ⟨v, hv, r, hr, groups, hgroups, g, hg, f, hf, hblocked⟩
  · rintro ⟨v, hv, r, hr, groups, hgroups, g, hg, f, hf, hblocked⟩
    exact ⟨v, r, groups, g, f, hv, hr, hgroups, hg, hf, hblocked⟩

/-- A job settles unless its bytecode ends in a digit alone or a search in one of its trees cannot go
on. -/
theorem settles_iff :
    j.Settles config ↔ ¬ EndsAlone j.artifact.deployedBytecode ∧ ¬ j.Blocked config := by
  rw [blocked_iff]
  constructor
  · intro h
    refine ⟨fun halone => ?_, fun he => ?_⟩
    · cases h _ (outcome_of_endsAlone halone)
    · cases h _ he
  · rintro ⟨halone, hwalk⟩ e he
    have hfaults : FaultsIn (fun e => e.Told ∨ e = .defect .notIterable) (j.outcome config) :=
      outcome_faultsIn (fun _ => Or.inl) (fun h => absurd h halone)
        fun _ _ => Or.inl (Or.inr rfl)
    rcases hfaults e he with htold | rfl
    · exact htold
    · exact absurd he hwalk

/-- In trees that can be walked every search can go on. -/
theorem not_blocked_of_walkable (h : ∀ t ∈ j.artifact.trees, t.2.Walkable) :
    ¬ j.Blocked config := by
  rw [blocked_iff]
  intro he
  have hfaults : FaultsIn (fun e => e.Told ∨ e = .defect .danglingDigit) (j.outcome config) :=
    outcome_faultsIn (fun _ => Or.inl) (fun _ => Or.inr rfl) fun t ht => Or.inr (h t ht)
  rcases hfaults _ he with htold | hdigit
  · cases htold
  · cases hdigit

end Job

end AuditReport
