import AuditReport.Command.Run
import AuditReport.Proofs.Contract.LeftOut
import AuditReport.Proofs.Contract.Schedule

/-!
# When a run ends with status zero

The status is read off the combined reports and lists of names. It is zero exactly if there is nothing
to tell about the findings themselves: all contracts that are wanted are there and were worked on, all
places of findings are left out and no log line is worth showing.
-/
namespace AuditReport

theorem mem_foundNames {artifacts : List Artifact} {requested : List String} {n : String} :
    n ∈ foundNames artifacts requested ↔
      (∃ a ∈ artifacts, a.name = n) ∧ (requested = [] ∨ n ∈ requested) := by
  simp [foundNames]

theorem missingNames_eq_nil_iff {requested present : List String} :
    missingNames requested present = [] ↔ ∀ n ∈ requested, n ∈ present := by
  simp [missingNames]

theorem visibleLogs_eq_nil_iff {debug : Bool} {logs : List LogLine} :
    visibleLogs debug logs = [] ↔ ∀ l ∈ logs, l.level = "info" ∧ debug = false := by
  simp [visibleLogs, and_comm]

namespace ResultSet

variable {artifacts : List Artifact} {rs : ResultSet} {jobs : List Job}

theorem artifact_mem_of_jobs (h : rs.jobs artifacts = .ok jobs) {j : Job} (hj : j ∈ jobs) :
    j.artifact ∈ artifacts := by
  cases rs with
  | unnamed results =>
    match artifacts, h with
    | [a], h =>
      cases h
      cases List.mem_singleton.mp hj
      exact List.mem_singleton_self a
  | named table =>
    cases h
    obtain ⟨a, ha, hja⟩ := List.mem_filterMap.mp hj
    obtain ⟨results, _, rfl⟩ := Option.map_eq_some_iff.mp hja
    exact ha

/-- The results of an artifact are told by its name, so one of each name gets a job if all do. -/
theorem exists_job_of_name (h : rs.jobs artifacts = .ok jobs) {j : Job} (hj : j ∈ jobs)
    {a : Artifact} (ha : a ∈ artifacts) (hname : a.name = j.artifact.name) :
    ⟨a, j.results⟩ ∈ jobs := by
  cases rs with
  | unnamed results =>
    match artifacts, h with
    | [b], h =>
      cases h
      cases List.mem_singleton.mp hj
      cases List.mem_singleton.mp ha
      exact List.mem_singleton_self _
  | named table =>
    cases h
    obtain ⟨b, _, hjb⟩ := List.mem_filterMap.mp hj
    obtain ⟨results, hresults, rfl⟩ := Option.map_eq_some_iff.mp hjb
    refine List.mem_filterMap.mpr ⟨a, ha, ?_⟩
    rw [hname, hresults]
    rfl

theorem job_unique (h : rs.jobs artifacts = .ok jobs) {j k : Job} (hj : j ∈ jobs) (hk : k ∈ jobs)
    (hjk : j.artifact = k.artifact) : j = k := by
  cases rs with
  | unnamed results =>
    match artifacts, h with
    | [a], h =>
      cases h
      rw [List.mem_singleton.mp hj, List.mem_singleton.mp hk]
  | named table =>
    cases h
    obtain ⟨a, _, hja⟩ := List.mem_filterMap.mp hj
    obtain ⟨b, _, hkb⟩ := List.mem_filterMap.mp hk
    obtain ⟨results, hresults, rfl⟩ := Option.map_eq_some_iff.mp hja
    obtain ⟨others, hothers, rfl⟩ := Option.map_eq_some_iff.mp hkb
    cases hjk
    cases hresults.symm.trans hothers
    rfl

end ResultSet

namespace Job

variable {config : ReportConfig} {j : Job} {c : ContractReport}

theorem report?_eq_some_iff : j.report? config = some c ↔ j.outcome config = .ok c := by
  rw [report?]
  cases j.outcome config <;> simp [Except.toOption]

theorem failure?_eq_none_iff : j.failure? config = none ↔ ∃ c, j.outcome config = .ok c := by
  rw [failure?]
  cases j.outcome config <;> simp

theorem head_of_outcome (h : j.outcome config = .ok c) :
    c.name = j.artifact.name ∧ c.sourcePath = j.artifact.sourcePath ∧
      c.logs = j.results.flatMap (·.info.logs) := by
  obtain ⟨v, _, h⟩ := Noted.outcome_bind_eq_ok_iff.mp h
  obtain ⟨reports, _, h⟩ := Noted.outcome_bind_eq_ok_iff.mp h
  cases h
  exact ⟨rfl, rfl, rfl⟩

end Job

/-- Combining neither adds nor loses a record, so one is left exactly if some report had one. -/
theorem forall_records_combined_eq_nil_iff {contracts : List ContractReport} :
    (∀ r ∈ combinedReports contracts, r.records = []) ↔
      ∀ c ∈ contracts, ∀ r ∈ c.reports, r.records = [] := by
  have hsome : ∀ path m, (∃ r ∈ combinedReports contracts, r.path = path ∧ m ∈ r.records) ↔
      ∃ r ∈ contracts.flatMap (·.reports), r.path = path ∧ m ∈ r.records :=
    fun _ _ => FileReport.exists_mem_combine_iff
  constructor
  · intro h c hc r hr
    apply List.eq_nil_iff_forall_not_mem.mpr
    intro m hm
    obtain ⟨s, hs, _, hms⟩ :=
      (hsome r.path m).mpr ⟨r, List.mem_flatMap.mpr ⟨c, hc, hr⟩, rfl, hm⟩
    rw [h s hs] at hms
    cases hms
  · intro h r hr
    apply List.eq_nil_iff_forall_not_mem.mpr
    intro m hm
    obtain ⟨s, hs, _, hms⟩ := (hsome r.path m).mp ⟨r, hr, rfl, hm⟩
    obtain ⟨c, hc, hs⟩ := List.mem_flatMap.mp hs
    rw [h c hc s hs] at hms
    cases hms

theorem exitStatus_eq_zero_iff {b : Batch} {wanted : List String} {debug : Bool} :
    exitStatus (combinedReports b.contracts) b wanted debug = 0 ↔
      (∀ c ∈ b.contracts, ∀ r ∈ c.reports, r.records = []) ∧ b.errors = [] ∧
      (∀ n ∈ wanted, ∃ c ∈ b.contracts, c.name = n) ∧
      ∀ c ∈ b.contracts, ∀ l ∈ c.logs, l.level = "info" ∧ debug = false := by
  have hattention : exitStatus (combinedReports b.contracts) b wanted debug = 0 ↔
      (∀ r ∈ combinedReports b.contracts, r.records = []) ∧ b.errors = [] ∧
      missingNames wanted b.analyzedNames = [] ∧
      visibleLogs debug (b.contracts.flatMap (·.logs)) = [] := by
    simp [exitStatus, needsAttention, and_assoc]
  rw [hattention, forall_records_combined_eq_nil_iff, missingNames_eq_nil_iff,
    visibleLogs_eq_nil_iff]
  simp only [Batch.analyzedNames, List.mem_map, List.mem_flatMap, forall_exists_index, and_imp]
  refine and_congr_right fun _ => and_congr_right fun _ => and_congr_right fun _ => ?_
  exact ⟨fun h c hc l hl => h l c hc hl, fun h l c hc hl => h c hc l hl⟩

namespace Command

namespace Options

variable (o : Options)

def wantedNames (artifacts : List Artifact) : List String :=
  if o.contracts = [] then artifacts.map (·.name) else o.contracts

theorem wanted_eq_wantedNames (artifacts : List Artifact) :
    o.wanted artifacts = o.wantedNames artifacts := by
  simp only [wanted, wantedNames, List.isEmpty_iff]
  split_ifs with h
  · simp [foundNames, h]
  · rfl

theorem mem_found_iff {artifacts : List Artifact} {n : String} :
    n ∈ foundNames artifacts o.contracts ↔
      (∃ a ∈ artifacts, a.name = n) ∧ n ∈ o.wantedNames artifacts := by
  rw [mem_foundNames, wantedNames]
  split_ifs with h
  · simp [h]
  · simp [h]

/-- The artifacts that are selected are those with wanted names. -/
theorem filter_found_eq (artifacts : List Artifact) :
    (artifacts.filter fun a => (foundNames artifacts o.contracts).contains a.name) =
      artifacts.filter fun a => a.name ∈ o.wantedNames artifacts := by
  apply List.filter_congr
  intro a ha
  rw [List.contains_eq_mem, decide_eq_decide, mem_found_iff]
  exact and_iff_right ⟨a, ha, rfl⟩

variable {o} {host : Host} {d : Disk} {config : ReportConfig} {artifacts : List Artifact} {jobs : List Job}
  {b : Batch}

/-- The jobs of a run are those for the artifacts with wanted names, and the batch is their outcome. -/
theorem analyze_eq_ok (h : o.analyze host d config artifacts = .ok (jobs, b)) :
    (∃ rs : ResultSet, rs.jobs (artifacts.filter fun a => a.name ∈ o.wantedNames artifacts) =
        .ok jobs) ∧
      b = ⟨jobs.filterMap (·.report? config), jobs.filterMap (·.failure? config)⟩ := by
  obtain ⟨document, _, h⟩ := Noted.bind_eq_ok_iff.mp h
  obtain ⟨rs, _, h⟩ := Noted.bind_eq_ok_iff.mp h
  obtain ⟨js, hjobs, h⟩ := Noted.bind_eq_ok_iff.mp h
  obtain ⟨batch, hrun, h⟩ := Noted.bind_eq_ok_iff.mp h
  cases h
  rw [← filter_found_eq]
  exact ⟨⟨rs, hjobs⟩, (Batch.run_eq_ok_iff.mp hrun).2⟩

end Options

def Ending.ofFault : Fault → Ending
  | .defect e => .cutOff e
  | _ => .status 2

theorem ending_ofFault (o : Options) (d : Disk) (told : String) (e : Fault) :
    (Outcome.ofFault o d told e).ending = .ofFault e := by
  cases e <;> rfl

theorem Ending.ofFault_eq_status {e : Fault} {n : Nat} (h : Ending.ofFault e = .status n) : n = 2 := by
  cases e <;> cases h
  all_goals rfl

def Ending.ofShown (status : Nat) : Option MarkupFlaw → Ending
  | none => .status status
  | some flaw => .cutOff (.markup flaw)

theorem Ending.ofShown_eq_status_iff {status n : Nat} {shown : Option MarkupFlaw} :
    Ending.ofShown status shown = .status n ↔ shown = none ∧ status = n := by
  cases shown with
  | none => simp [ofShown]
  | some flaw => simp [ofShown]

theorem ending_finish (o : Options) (host : Host) (d : Disk) (told : String) (artifacts : List Artifact)
    (b : Batch) :
    (finish o host d told artifacts b).ending = .ofShown
      (exitStatus (combinedReports b.contracts) b (o.wantedNames artifacts) o.debug)
      (shownTexts (o.problemTexts host.screen b (o.wantedNames artifacts))).2 ∨
    o.output ≠ none ∧
      ∃ flaw, (finish o host d told artifacts b).ending = .cutOff (.unwritable flaw) := by
  rw [← o.wanted_eq_wantedNames]
  cases ho : o.output with
  | none =>
    left
    simp only [finish, ho]
    cases (shownTexts (o.problemTexts host.screen b (o.wanted artifacts))).2 <;> rfl
  | some path =>
    cases hw : d.write path (document (combinedReports b.contracts)).toUTF8 with
    | error flaw =>
      right
      exact ⟨Option.some_ne_none path, flaw, by simp only [finish, ho, hw]⟩
    | ok d' =>
      left
      simp only [finish, ho, hw]
      cases (shownTexts (o.problemTexts host.screen b (o.wanted artifacts))).2 <;> rfl

/-- A run that comes to its exit status. -/
structure CompletedRun (host : Host) (o : Options) (d : Disk) where
  config : ReportConfig
  artifacts : List Artifact
  jobs : List Job
  batch : Batch
  status : Nat
  loaded : o.load host d = .ok (config, artifacts)
  analyzed : o.analyze host d config artifacts = .ok (jobs, batch)
  ended : (report host o d).ending = .status status

namespace CompletedRun

variable {host : Host} {o : Options} {d : Disk}

theorem status_eq (r : CompletedRun host o d) :
    r.status = exitStatus (combinedReports r.batch.contracts) r.batch (o.wantedNames r.artifacts)
      o.debug := by
  have h := r.ended
  unfold report at h
  split_ifs at h
  rw [r.loaded] at h
  simp only [r.analyzed] at h
  rcases ending_finish o host d _ r.artifacts r.batch with hended | ⟨_, flaw, hended⟩
  · rw [hended] at h
    exact (Ending.ofShown_eq_status_iff.mp h).2.symm
  · rw [hended] at h
    cases h

structure NothingToTell (r : CompletedRun host o d) : Prop where
  present : ∀ n ∈ o.wantedNames r.artifacts, ∃ a ∈ r.artifacts, a.name = n
  analyzed : ∀ a ∈ r.artifacts, a.name ∈ o.wantedNames r.artifacts →
    ∃ j ∈ r.jobs, j.artifact = a ∧ ∃ c, j.outcome r.config = .ok c
  leftOut : ∀ j ∈ r.jobs, ∀ p ∈ j.places, p.LeftOut r.config
  quiet : ∀ j ∈ r.jobs, ∀ result ∈ j.results, ∀ l ∈ result.info.logs,
    l.level = "info" ∧ o.debug = false

/-- Nothing asks for attention where all jobs succeed and all wanted names are names of jobs. -/
theorem status_eq_zero_iff_jobs (r : CompletedRun host o d) : r.status = 0 ↔
    (∀ j ∈ r.jobs, ∃ c, j.outcome r.config = .ok c) ∧
    (∀ n ∈ o.wantedNames r.artifacts, ∃ j ∈ r.jobs, j.artifact.name = n) ∧
    (∀ j ∈ r.jobs, ∀ p ∈ j.places, p.LeftOut r.config) ∧
    ∀ j ∈ r.jobs, ∀ result ∈ j.results, ∀ l ∈ result.info.logs,
      l.level = "info" ∧ o.debug = false := by
  have hbatch := (Options.analyze_eq_ok r.analyzed).2
  rw [status_eq, exitStatus_eq_zero_iff, hbatch]
  simp only [List.mem_filterMap, Job.report?_eq_some_iff, List.filterMap_eq_nil_iff,
    Job.failure?_eq_none_iff]
  constructor
  · rintro ⟨hrecords, hok, hnames, hlogs⟩
    refine ⟨hok, ?_, ?_, ?_⟩
    · intro n hn
      obtain ⟨c, ⟨j, hj, hc⟩, rfl⟩ := hnames n hn
      exact ⟨j, hj, (Job.head_of_outcome hc).1.symm⟩
    · intro j hj
      obtain ⟨c, hc⟩ := hok j hj
      exact (Job.forall_records_eq_nil_iff hc).mp (hrecords c ⟨j, hj, hc⟩)
    · intro j hj result hresult l hl
      obtain ⟨c, hc⟩ := hok j hj
      apply hlogs c ⟨j, hj, hc⟩
      rw [(Job.head_of_outcome hc).2.2]
      exact List.mem_flatMap.mpr ⟨result, hresult, hl⟩
  · rintro ⟨hok, hnames, hout, hquiet⟩
    refine ⟨?_, hok, ?_, ?_⟩
    · rintro c ⟨j, hj, hc⟩
      exact (Job.forall_records_eq_nil_iff hc).mpr (hout j hj)
    · intro n hn
      obtain ⟨j, hj, rfl⟩ := hnames n hn
      obtain ⟨c, hc⟩ := hok j hj
      exact ⟨c, ⟨j, hj, hc⟩, (Job.head_of_outcome hc).1⟩
    · rintro c ⟨j, hj, hc⟩ l hl
      rw [(Job.head_of_outcome hc).2.2] at hl
      obtain ⟨result, hresult, hl⟩ := List.mem_flatMap.mp hl
      exact hquiet j hj result hresult l hl

/-- No run is a success in silence: its status is zero exactly if there is nothing to tell. -/
theorem status_eq_zero_iff (r : CompletedRun host o d) : r.status = 0 ↔ r.NothingToTell := by
  obtain ⟨⟨rs, hjobs⟩, _⟩ := Options.analyze_eq_ok r.analyzed
  have hselected : ∀ a, a ∈ (r.artifacts.filter fun a => a.name ∈ o.wantedNames r.artifacts) ↔
      a ∈ r.artifacts ∧ a.name ∈ o.wantedNames r.artifacts := by
    intro a
    rw [List.mem_filter, decide_eq_true_iff]
  have hjob : ∀ j ∈ r.jobs, j.artifact ∈ r.artifacts ∧
      j.artifact.name ∈ o.wantedNames r.artifacts :=
    fun j hj => (hselected j.artifact).mp (ResultSet.artifact_mem_of_jobs hjobs hj)
  rw [status_eq_zero_iff_jobs]
  constructor
  · rintro ⟨hok, hnames, hout, hquiet⟩
    refine ⟨?_, ?_, hout, hquiet⟩
    · intro n hn
      obtain ⟨j, hj, rfl⟩ := hnames n hn
      exact ⟨j.artifact, (hjob j hj).1, rfl⟩
    · intro a ha hn
      obtain ⟨j, hj, hname⟩ := hnames a.name hn
      have hmem := ResultSet.exists_job_of_name hjobs hj ((hselected a).mpr ⟨ha, hn⟩) hname.symm
      exact ⟨_, hmem, rfl, hok _ hmem⟩
  · rintro ⟨hpresent, hanalyzed, hout, hquiet⟩
    refine ⟨?_, ?_, hout, hquiet⟩
    · intro j hj
      obtain ⟨ha, hn⟩ := hjob j hj
      obtain ⟨k, hk, hkj, hok⟩ := hanalyzed j.artifact ha hn
      rwa [ResultSet.job_unique hjobs hj hk hkj.symm]
    · intro n hn
      obtain ⟨a, ha, rfl⟩ := hpresent n hn
      obtain ⟨j, hj, rfl, _⟩ := hanalyzed a ha hn
      exact ⟨j, hj, rfl⟩

/-- Faults end a run with another status, so these runs come to their exit status. -/
theorem exists_of_ending {n : Nat} (h : (report host o d).ending = .status n) (hn : n ≠ 2) :
    ∃ r : CompletedRun host o d, r.status = n := by
  have hended := h
  unfold report at h
  split_ifs at h
  cases hload : o.load host d with
  | error e =>
    simp only [hload, ending_ofFault] at h
    exact absurd (Ending.ofFault_eq_status h) hn
  | ok loaded =>
    simp only [hload] at h
    cases hanalyze : o.analyze host d loaded.1 loaded.2 with
    | error e =>
      simp only [hanalyze, ending_ofFault] at h
      exact absurd (Ending.ofFault_eq_status h) hn
    | ok analyzed =>
      exact ⟨⟨loaded.1, loaded.2, analyzed.1, analyzed.2, n, hload, hanalyze, hended⟩, rfl⟩

end CompletedRun

def twoContracts : Disk where
  nodes := [
    ([['b']], .file ("\x7b\"sources\":\x7b\"x\":\x7b\"contracts\":[\x7b\"contractName\":\"A\"\x7d]\x7d," ++
      "\"y\":\x7b\"contracts\":[\x7b\"contractName\":\"A\"\x7d]\x7d\x7d\x7d").toUTF8),
    ([['r']], .file ("\x7b\"A\":\x7b\"issues\":[\x7b\"swcID\":\"SWC-101\",\"locations\":[\x7b\x7d]\x7d]," ++
      "\"meta\":\x7b\"logs\":[\x7b\"level\":\"info\"\x7d]\x7d\x7d\x7d").toUTF8)]

/-- The contracts are asked for twice; the rule of their only finding is not reported on. -/
def withoutRule101 : Options where
  build := "b"
  results := "r"
  contracts := ["A", "A"]
  minSeverity := none
  swcBlacklist := some "101"
  style := none
  output := none
  projectRoot := none
  jobs := 4
  debug := false
  color := false
  glyphs := false

/-- A host with a screen on which nothing counts as markup. -/
def plainHost : Host where
  maxDepth := 980
  optionsDepth := 979
  screen := ⟨fun text => .ok (text ++ "\n"), fun title => .ok (title ++ "\n")⟩

theorem twoContracts_nothingToTell : ∃ r : CompletedRun plainHost withoutRule101 twoContracts,
    r.status = 0 ∧ r.NothingToTell := by
  have hended : (report plainHost withoutRule101 twoContracts).ending = .status 0 := by decide +kernel
  obtain ⟨r, hr⟩ := CompletedRun.exists_of_ending hended (by decide)
  exact ⟨r, hr, r.status_eq_zero_iff.mp hr⟩

end Command
end AuditReport
