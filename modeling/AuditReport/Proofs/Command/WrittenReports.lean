import AuditReport.Proofs.Command.Endings
import AuditReport.Proofs.Command.WrittenFiles
import AuditReport.Proofs.Contract.Numbers
import AuditReport.Proofs.Decode.Restored
import AuditReport.Proofs.Json.Written

/-!
# Reports that are written and read

The command leaves its reports as one document, on standard output or in a file. The document reads back, and
the reports are decoded from it as they were. Numbers of more digits than are allowed would not be read.
-/
namespace AuditReport

namespace Json

variable {depth : Nat}

theorem legible_ofText? (s : Option String) : Legible depth (.ofText? s) := by
  cases s with
  | none => exact .null
  | some s => exact .str s

theorem legible_ofInt? {k : Option Int}
    (h : ∀ n ∈ k.toList, (Nat.toDigits 10 n.natAbs).length ≤ Text.Numeral.maxDigits) :
    Legible depth (.ofInt? k) := by
  cases k with
  | none => exact .null
  | some n => exact .int (h n List.mem_cons_self)

end Json

namespace Record

theorem legible_toJson {m : Record}
    (h : ∀ n ∈ m.numbers, (Nat.toDigits 10 n.natAbs).length ≤ Text.Numeral.maxDigits) (depth : Nat) :
    Json.Legible (depth + 1) m.toJson := by
  simp only [numbers, List.forall_mem_append, List.forall_mem_cons] at h
  obtain ⟨⟨⟨hseverity, hline, hcolumn, _⟩, hendLine⟩, hendColumn⟩ := h
  refine .obj ?_ ?_
  · simp only [Table.keys, List.map_cons, List.map_nil]
    decide
  · simp only [List.forall_mem_cons]
    exact ⟨.str _, .str _, .int hseverity, Json.legible_ofText? _, .int hline, .int hcolumn,
      Json.legible_ofInt? hendLine, Json.legible_ofInt? hendColumn, .bool _, List.forall_mem_nil _⟩

end Record

namespace FileReport

theorem legible_toJson {r : FileReport} (h : r.Bounded) (depth : Nat) :
    Json.Legible (depth + 3) r.toJson := by
  simp only [Bounded, numbers, List.forall_mem_append, List.forall_mem_cons] at h
  obtain ⟨⟨herrors, hwarnings, hfixableErrors, hfixableWarnings, _⟩, hrecords⟩ := h
  have hmessages : Json.Legible (depth + 2) (.arr (r.records.map Record.toJson)) := by
    refine .arr (List.forall_mem_map.mpr fun m hm => Record.legible_toJson ?_ depth)
    exact fun n hn => hrecords n (List.mem_flatMap.mpr ⟨m, hm, hn⟩)
  refine .obj ?_ ?_
  · simp only [Table.keys, List.map_cons, List.map_nil]
    decide
  · simp only [List.forall_mem_cons]
    exact ⟨.str _, .int herrors, .int hwarnings, .int hfixableErrors, .int hfixableWarnings,
      hmessages, List.forall_mem_nil _⟩

/-- The reports are decoded of the document in a text, in which values lie no deeper than four. -/
def ReadsAs (text : String) (rs : List FileReport) : Prop :=
  ∃ v, (∀ maxDepth, 4 ≤ maxDepth → Json.read maxDepth text = .ok v) ∧ Decode.listOf decode v = .ok rs

theorem readsAs_document {rs : List FileReport} (h : ∀ r ∈ rs, r.Bounded) :
    ReadsAs (Command.document rs) rs := by
  have hlegible : ∀ depth, Json.Legible (depth + 4) (.arr (rs.map toJson)) :=
    fun depth => .arr (List.forall_mem_map.mpr fun r hr => legible_toJson (h r hr) depth)
  refine ⟨_, ?_, restores.listOf rs⟩
  intro maxDepth hdepth
  obtain ⟨depth, rfl⟩ := Nat.exists_eq_add_of_le' hdepth
  exact Json.read_render Json.indented_fits (hlegible depth) (List.forall_mem_singleton.mpr rfl)

end FileReport

namespace Command

def Options.reports (o : Options) (host : Host) (d : Disk) : Except Fault (List FileReport) := do
  let (config, artifacts) ← o.load host d
  let (_, b) ← o.analyze host d config artifacts
  return combinedReports b.contracts

/-- The text in which a run leaves its reports: what it prints, or what is then in its file. -/
def Options.leftText (o : Options) (outcome : Outcome) : Option String :=
  match o.output with
  | none => some outcome.stdout
  | some path => (outcome.disk.read path).toOption.bind String.fromUTF8?

variable {host : Host} {o : Options} {d : Disk} {rs : List FileReport}

theorem leftText_finish (told : String) (artifacts : List Artifact) (b : Batch)
    (hwritten : ∀ flaw, (finish o host d told artifacts b).ending ≠ .cutOff (.unwritable flaw)) :
    o.leftText (finish o host d told artifacts b) = some (document (combinedReports b.contracts)) := by
  cases ho : o.output with
  | none => simp only [Options.leftText, finish, ho]
  | some path =>
    cases hw : d.write path (document (combinedReports b.contracts)).toUTF8 with
    | error flaw =>
      refine absurd ?_ (hwritten flaw)
      simp only [finish, ho, hw]
    | ok d' =>
      simp only [Options.leftText, finish, ho, hw, Disk.read_of_write hw, Except.toOption,
        Option.bind_some, fromUTF8?_toUTF8]

theorem reports_eq_ok (h : o.reports host d = .ok rs) : ∃ config artifacts jobs b,
    o.load host d = .ok (config, artifacts) ∧ o.analyze host d config artifacts = .ok (jobs, b) ∧
      rs = combinedReports b.contracts := by
  obtain ⟨⟨config, artifacts⟩, hload, h⟩ := Noted.bind_eq_ok_iff.mp h
  obtain ⟨⟨jobs, b⟩, hanalyze, h⟩ := Noted.bind_eq_ok_iff.mp h
  cases h
  exact ⟨config, artifacts, jobs, b, hload, hanalyze, rfl⟩

theorem leftText_report (h : o.reports host d = .ok rs)
    (husable : ∀ path ∈ o.paths, Disk.isUsable path = true)
    (hwritten : ∀ flaw, (report host o d).ending ≠ .cutOff (.unwritable flaw)) :
    o.leftText (report host o d) = some (document rs) := by
  obtain ⟨config, artifacts, jobs, b, hload, hanalyze, rfl⟩ := reports_eq_ok h
  have hreport : report host o d =
      finish o host d (o.notFoundText artifacts ++ o.debugText jobs) artifacts b := by
    rw [report, List.all_eq_true.mpr husable, hload]
    simp only [hanalyze, Bool.not_true, Bool.false_eq_true, if_false]
  rw [hreport] at hwritten ⊢
  exact leftText_finish _ artifacts b hwritten

theorem bounded_of_reports (h : o.reports host d = .ok rs) {config : ReportConfig}
    {artifacts : List Artifact} (hload : o.load host d = .ok (config, artifacts)) {k : Nat}
    (hk : k + 2 < 10 ^ Text.Numeral.maxDigits)
    (hsize : ∀ a ∈ artifacts, ∀ s ∈ a.sources, (a.textOf s.1 s.2).utf8ByteSize ≤ k)
    (hcount : ∀ r ∈ rs, r.records.length ≤ k) : ∀ r ∈ rs, r.Bounded := by
  obtain ⟨_, _, jobs, b, hload', hanalyze, rfl⟩ := reports_eq_ok h
  cases hload.symm.trans hload'
  obtain ⟨⟨results, hjobs⟩, hb⟩ := Options.analyze_eq_ok hanalyze
  have hon : ∀ c ∈ b.contracts, ∃ a ∈ artifacts, ContractReport.IsOn a c := by
    rw [hb]
    intro c hc
    obtain ⟨j, hj, hjc⟩ := List.mem_filterMap.mp hc
    exact ⟨j.artifact, (List.mem_filter.mp (ResultSet.artifact_mem_of_jobs hjobs hj)).1, j.results,
      config, Job.report?_eq_some_iff.mp hjc⟩
  intro r hr n hn
  have hle := natAbs_le_of_mem_combined hon hsize hr (hcount r hr) n hn
  exact Nat.toDigits_length 10 _ _ (by decide) (Nat.lt_of_le_of_lt hle hk)

structure LeavesReports (host : Host) (o : Options) (d : Disk) (rs : List FileReport) : Prop where
  /-- They are read of the text in which they are left. -/
  readsAs : (∀ path ∈ o.paths, Disk.isUsable path = true) →
    (∀ flaw, (report host o d).ending ≠ .cutOff (.unwritable flaw)) → (∀ r ∈ rs, r.Bounded) →
    ∃ text, o.leftText (report host o d) = some text ∧ FileReport.ReadsAs text rs
  /-- No number is too long unless a source or a report is immense. -/
  bounded : ∀ config artifacts k, o.load host d = .ok (config, artifacts) →
    k + 2 < 10 ^ Text.Numeral.maxDigits →
    (∀ a ∈ artifacts, ∀ s ∈ a.sources, (a.textOf s.1 s.2).utf8ByteSize ≤ k) →
    (∀ r ∈ rs, r.records.length ≤ k) → ∀ r ∈ rs, r.Bounded

/-- Records of all kinds survive a dump, and the reports that a run writes are those that are read of
what it leaves. -/
theorem survive_dumps :
    Decode.Survives AnalysisResult.decode AnalysisResult.toJson ∧
    Decode.Survives FindingGroup.decode FindingGroup.toJson ∧
    Decode.Survives FileReport.decode FileReport.toJson ∧
    Decode.Survives Filter.decode Filter.toJson ∧
    ∀ (host : Host) (o : Options) (d : Disk) (rs : List FileReport), o.reports host d = .ok rs →
      LeavesReports host o d rs := by
  refine ⟨AnalysisResult.restores.survives, FindingGroup.restores.survives,
    FileReport.restores.survives, Filter.survives, ?_⟩
  intro host o d rs h
  constructor
  · intro husable hwritten hbounded
    exact ⟨document rs, leftText_report h husable hwritten, FileReport.readsAs_document hbounded⟩
  · intro config artifacts k hload hk hsize hcount
    exact bounded_of_reports h hload hk hsize hcount

def shortResult : Json :=
  .obj [("issues", .arr [.obj [("description", .str "x")]]), ("meta", .null)]

def twoLineContract : ByteArray :=
  ("\x7b\"contractName\":\"A\",\"sourcePath\":\"a\",\"sources\":\x7b\"a\":\x7b\"source\":\"x\\ny\"" ++
    "\x7d\x7d\x7d").toUTF8

def secondLineFinding : ByteArray :=
  ("[\x7b\"sourceFormat\":\"text\",\"sourceList\":[\"a\"],\"issues\":[\x7b\"swcID\":\"SWC-101\"," ++
    "\"severity\":\"High\",\"description\":\"\\u00e9\",\"locations\":[\x7b\"sourceMap\":\"2:1:0\"" ++
    "\x7d]\x7d]\x7d]").toUTF8

def secondLineReport : FileReport :=
  ⟨"a", 1, 0, 0, 0, [⟨"SWC-101", "é", 2, some "High", 2, 0, some 2, some 1, false⟩]⟩

/-- A short result is decoded from its dump, and a report that is written to a file is read from there. -/
theorem secondLineFinding_survives :
    (∃ r, AnalysisResult.decode shortResult = .ok r ∧ AnalysisResult.decode r.toJson = .ok r) ∧
    ∃ text, Options.leftText { plain with output := some "o" }
        (report plainHost { plain with output := some "o" } (twoFiles twoLineContract secondLineFinding)) =
      some text ∧ FileReport.ReadsAs text [secondLineReport] := by
  have hended : (report plainHost { plain with output := some "o" }
      (twoFiles twoLineContract secondLineFinding)).ending = .status 1 := by
    decide +kernel
  have hreports : Options.reports { plain with output := some "o" } plainHost
      (twoFiles twoLineContract secondLineFinding) = .ok [secondLineReport] := by
    decide +kernel
  refine ⟨⟨_, rfl, survive_dumps.1 shortResult _ rfl⟩,
    (survive_dumps.2.2.2.2 _ _ _ _ hreports).readsAs (by decide) ?_ (by decide)⟩
  rw [hended]
  exact nofun

end Command
end AuditReport
