import AuditReport.Proofs.Command.Defects
import AuditReport.Proofs.Contract.JobFaults

/-!
# How runs end on files of any content

A run on two files ends by itself, with status 2 where one of them is at fault and else with the status
of its reports, unless its input is of a kind that no check foresees. These kinds are listed here, and
with any of them a run is cut off, whatever the host is like. Nothing is said of documents with half of a
surrogate pair.
-/
namespace AuditReport.Command

/-- A run that prints its reports on two files, without options of a project. Documents with half of a
surrogate pair are left out, since no text stands for what they hold. -/
structure FileRun (host : Host) (o : Options) (d : Disk) where
  config : ReportConfig
  build : ByteArray
  results : ByteArray
  usable : ∀ path ∈ o.paths, Disk.isUsable path = true
  printed : o.output = none
  configured : ReportConfig.build o.reportOptions [] = .ok config
  noProject : d.projectOptions host.optionsDepth o.root = .ok []
  readsBuild : d.read o.build = .ok build
  readsResults : d.read o.results = .ok results
  wholeBuild : Whole host.maxDepth build
  wholeResults : Whole host.maxDepth results

namespace FileRun

variable {host : Host} {o : Options} {d : Disk} (r : FileRun host o d)

def Loads (artifacts : List Artifact) : Prop :=
  ∃ fs made, Holds host.maxDepth r.build (.obj fs) ∧ Build.artifacts fs = .ok made ∧
    artifacts = uniqueArtifacts made

def Builds (artifacts : List Artifact) (jobs : List Job) : Prop :=
  r.Loads artifacts ∧ ∃ v results, Holds host.maxDepth r.results v ∧ ResultSet.decode v = .ok results ∧
    results.jobs (artifacts.filter fun a => a.name ∈ o.wantedNames artifacts) = .ok jobs

/-- The run ends by itself: with status 2 if no artifacts and jobs can be made of the files, and else
with the status of the reports. -/
structure Handled : Prop where
  ended : ∃ n ≤ 2, (report host o d).ending = .status n
  refused : (¬ ∃ artifacts jobs, r.Builds artifacts jobs) → (report host o d).ending = .status 2
  told : ∀ artifacts jobs, r.Builds artifacts jobs → ∃ b, Batch.run r.config jobs = .ok b ∧
    (report host o d).ending = .status (exitStatus (combinedReports b.contracts) b
      (o.wantedNames artifacts) o.debug)

/-- What is read of the files, as far as they are read, is foreseen. -/
structure InputForeseen : Prop where
  build : Readable host.maxDepth r.build
  object : ∀ v, Holds host.maxDepth r.build v → ∃ fs, v = .obj fs
  records : ∀ fs, Holds host.maxDepth r.build (.obj fs) → Build.ListsRecords fs
  results : (∃ artifacts, r.Loads artifacts) → Readable host.maxDepth r.results

/-- The jobs are of a foreseen kind: no bytecode ends in a digit alone, no search comes to a node that
cannot be walked, and the titles over log lines that are shown can be shown too. -/
structure JobsForeseen (jobs : List Job) : Prop where
  digits : ∀ j ∈ jobs, ¬ Bytecode.EndsAlone j.artifact.deployedBytecode
  searches : ∀ j ∈ jobs, ¬ j.Blocked r.config
  titles : ∀ j ∈ jobs, (∃ c, j.outcome r.config = .ok c) →
    (∃ result ∈ j.results, ∃ l ∈ result.info.logs, l.level ≠ "info" ∨ o.debug = true) →
    ∃ title, Console.sectionTitle host.screen ("Analysis logs: " ++
      Text.orDefault (some j.artifact.sourcePath) j.artifact.name) o.color = .ok title

structure Foreseen : Prop where
  input : r.InputForeseen
  jobs : ∀ artifacts jobs, r.Builds artifacts jobs → r.JobsForeseen jobs

section Stages

def artifactsIn (host : Host) (o : Options) (d : Disk) : Except Fault (List Artifact) := do
  let record ← d.readJson host.maxDepth o.build
  return uniqueArtifacts (← Build.artifacts (← Build.entries record))

def jobsIn (host : Host) (o : Options) (d : Disk) (artifacts : List Artifact) :
    Except Fault (List Job) := do
  let results ← ResultSet.decode (← d.readJson host.maxDepth o.results)
  results.jobs (artifacts.filter fun a => a.name ∈ o.wantedNames artifacts)

variable {artifacts : List Artifact} {jobs : List Job} {b : Batch} {e : Fault}

theorem artifactsIn_eq_ok_iff : artifactsIn host o d = .ok artifacts ↔ r.Loads artifacts := by
  simp only [artifactsIn, Noted.bind_eq_ok_iff, Disk.readJson_eq_ok_iff r.readsBuild r.wholeBuild,
    Build.entries_eq_ok_iff]
  constructor
  · rintro ⟨v, hv, fs, rfl, made, hmade, h⟩
    cases h
    exact ⟨fs, made, hv, hmade, rfl⟩
  · rintro ⟨fs, made, hv, hmade, rfl⟩
    exact ⟨_, hv, fs, rfl, made, hmade, rfl⟩

theorem builds_iff :
    r.Builds artifacts jobs ↔ artifactsIn host o d = .ok artifacts ∧ jobsIn host o d artifacts = .ok jobs := by
  simp only [Builds, r.artifactsIn_eq_ok_iff, jobsIn, Noted.bind_eq_ok_iff,
    Disk.readJson_eq_ok_iff r.readsResults r.wholeResults]
  refine and_congr_right fun _ => ?_
  constructor
  · rintro ⟨v, results, hv, hresults, hjobs⟩
    exact ⟨v, hv, results, hresults, hjobs⟩
  · rintro ⟨v, hv, results, hresults, hjobs⟩
    exact ⟨v, results, hv, hresults, hjobs⟩

theorem builds_unique {artifacts' : List Artifact} {jobs' : List Job} (h : r.Builds artifacts jobs)
    (h' : r.Builds artifacts' jobs') : jobs = jobs' ∧ artifacts = artifacts' := by
  obtain ⟨hartifacts, hjobs⟩ := r.builds_iff.mp h
  obtain ⟨hartifacts', hjobs'⟩ := r.builds_iff.mp h'
  cases hartifacts.symm.trans hartifacts'
  cases hjobs.symm.trans hjobs'
  exact ⟨rfl, rfl⟩

theorem not_hasDefect_artifactsIn_iff : ¬ HasDefect (artifactsIn host o d) ↔ Readable host.maxDepth r.build ∧
    (∀ v, Holds host.maxDepth r.build v → ∃ fs, v = .obj fs) ∧
      ∀ fs, Holds host.maxDepth r.build (.obj fs) → Build.ListsRecords fs := by
  simp only [artifactsIn, hasDefect_bind_iff, Disk.hasDefect_readJson_iff r.readsBuild r.wholeBuild,
    Disk.readJson_eq_ok_iff r.readsBuild r.wholeBuild, Build.hasDefect_entries_iff, Build.entries_eq_ok_iff,
    Build.hasDefect_artifacts_iff]
  constructor
  · intro h
    simp only [not_or, not_exists, not_and, not_not] at h
    refine ⟨h.1, ?_, ?_⟩
    · intro v hv
      by_contra hobj
      exact (h.2 v hv).1 (not_exists.mp hobj)
    · intro fs hfs
      exact ((h.2 _ hfs).2 fs rfl).1
  · rintro ⟨hbuild, hobject, hrecords⟩ (h | ⟨v, hv, h | ⟨fs, rfl, h | ⟨made, _, h⟩⟩⟩)
    · exact h hbuild
    · exact h (hobject v hv)
    · exact h (hrecords fs hv)
    · exact not_hasDefect_ok _ h

theorem not_hasDefect_jobsIn_iff : ¬ HasDefect (jobsIn host o d artifacts) ↔ Readable host.maxDepth r.results := by
  simp only [jobsIn, hasDefect_bind_iff, Disk.hasDefect_readJson_iff r.readsResults r.wholeResults,
    ResultSet.not_hasDefect_decode, ResultSet.not_hasDefect_jobs, and_false, exists_false, or_false,
    not_not]

theorem load_eq : o.load host d = (artifactsIn host o d).map fun artifacts => (r.config, artifacts) := by
  have hoptions : d.wholeOptions host.optionsDepth o.root = .ok [] := by
    rw [Disk.wholeOptions, r.noProject]
    rfl
  rw [Options.load, hoptions]
  change ReportConfig.build o.reportOptions [] >>= _ = _
  rw [r.configured, artifactsIn]
  cases d.readJson host.maxDepth o.build with
  | error e => rfl
  | ok v =>
    change (Build.entries v >>= _) = (Build.entries v >>= _ : Except Fault (List Artifact)).map _
    cases Build.entries v with
    | error e => rfl
    | ok fs =>
      change (Build.artifacts fs >>= _) =
        (Build.artifacts fs >>= _ : Except Fault (List Artifact)).map _
      cases Build.artifacts fs <;> rfl

theorem analyze_eq (config : ReportConfig) : o.analyze host d config artifacts =
    jobsIn host o d artifacts >>= fun jobs => (Batch.run config jobs).map fun b => (jobs, b) := by
  rw [Options.analyze, jobsIn, o.filter_found_eq]
  cases d.readJson host.maxDepth o.results with
  | error e => rfl
  | ok v =>
    change (ResultSet.decode v >>= _) = ((ResultSet.decode v >>= _ : Except Fault (List Job)) >>= _)
    cases ResultSet.decode v with
    | error e => rfl
    | ok rs =>
      change (rs.jobs _ >>= _) = (rs.jobs _ >>= _)
      congr 1

include r

theorem report_eq : report host o d = match artifactsIn host o d with
    | .error e => .ofFault o d "" e
    | .ok artifacts => match o.analyze host d r.config artifacts with
      | .error e => .ofFault o d (o.notFoundText artifacts) e
      | .ok (jobs, b) => finish o host d (o.notFoundText artifacts ++ o.debugText jobs) artifacts b := by
  have hpaths : ¬ (!o.paths.all Disk.isUsable) = true := by
    simpa using r.usable
  rw [report, if_neg hpaths, r.load_eq]
  cases artifactsIn host o d <;> rfl

theorem ending_of_artifactsIn (h : artifactsIn host o d = .error e) :
    (report host o d).ending = .ofFault e := by
  rw [r.report_eq, h]
  exact ending_ofFault _ _ _ _

theorem ending_of_jobsIn (hartifacts : artifactsIn host o d = .ok artifacts)
    (h : jobsIn host o d artifacts = .error e) : (report host o d).ending = .ofFault e := by
  rw [r.report_eq, hartifacts]
  simp only [analyze_eq, h]
  exact ending_ofFault _ _ _ _

theorem ending_of_run_eq_error (hartifacts : artifactsIn host o d = .ok artifacts)
    (hjobs : jobsIn host o d artifacts = .ok jobs) (h : Batch.run r.config jobs = .error e) :
    (report host o d).ending = .ofFault e := by
  have hanalyze : o.analyze host d r.config artifacts = .error e := by
    rw [analyze_eq, hjobs]
    change (Batch.run r.config jobs).map _ = _
    rw [h]
    rfl
  rw [r.report_eq, hartifacts]
  simp only [hanalyze]
  exact ending_ofFault _ _ _ _

theorem ending_of_run (hartifacts : artifactsIn host o d = .ok artifacts)
    (hjobs : jobsIn host o d artifacts = .ok jobs) (h : Batch.run r.config jobs = .ok b) :
    (report host o d).ending = .ofShown
      (exitStatus (combinedReports b.contracts) b (o.wantedNames artifacts) o.debug)
      (shownTexts (o.problemTexts host.screen b (o.wantedNames artifacts))).2 := by
  have hanalyze : o.analyze host d r.config artifacts = .ok (jobs, b) := by
    rw [analyze_eq, hjobs]
    change (Batch.run r.config jobs).map _ = _
    rw [h]
    rfl
  rw [r.report_eq, hartifacts]
  simp only [hanalyze]
  exact (ending_finish _ _ _ _ _ _).resolve_right fun hwrites => hwrites.1 r.printed

end Stages

theorem handled_of_not_builds (h : ¬ ∃ artifacts jobs, r.Builds artifacts jobs) :
    r.Handled ↔ (report host o d).ending = .status 2 := by
  constructor
  · intro hr
    exact hr.refused h
  · intro hended
    exact ⟨⟨2, le_refl 2, hended⟩, fun _ => hended, fun artifacts jobs hb => absurd ⟨_, _, hb⟩ h⟩

theorem handled_of_builds {artifacts : List Artifact} {jobs : List Job} (h : r.Builds artifacts jobs) :
    r.Handled ↔ ∃ b, Batch.run r.config jobs = .ok b ∧ (report host o d).ending =
      .status (exitStatus (combinedReports b.contracts) b (o.wantedNames artifacts) o.debug) := by
  constructor
  · intro hr
    exact hr.told artifacts jobs h
  · rintro ⟨b, hrun, hended⟩
    refine ⟨⟨_, ?_, hended⟩, fun hno => absurd ⟨_, _, h⟩ hno, ?_⟩
    · unfold exitStatus
      split_ifs <;> omega
    · intro artifacts' jobs' h'
      obtain ⟨rfl, rfl⟩ := r.builds_unique h h'
      exact ⟨b, hrun, hended⟩

/-- A run ends with the status of its reports exactly if its jobs are foreseen. -/
theorem jobsForeseen_iff {artifacts : List Artifact} {jobs : List Job} (h : r.Builds artifacts jobs) :
    r.JobsForeseen jobs ↔ ∃ b, Batch.run r.config jobs = .ok b ∧ (report host o d).ending =
      .status (exitStatus (combinedReports b.contracts) b (o.wantedNames artifacts) o.debug) := by
  obtain ⟨hartifacts, hjobs⟩ := r.builds_iff.mp h
  constructor
  · rintro ⟨hdigits, hsearches, htitles⟩
    have hsettles : ∀ j ∈ jobs, j.Settles r.config :=
      fun j hj => Job.settles_iff.mpr ⟨hdigits j hj, hsearches j hj⟩
    refine ⟨_, Batch.run_eq_ok_iff.mpr ⟨hsettles, rfl⟩, ?_⟩
    rw [r.ending_of_run hartifacts hjobs (Batch.run_eq_ok_iff.mpr ⟨hsettles, rfl⟩)]
    exact Ending.ofShown_eq_status_iff.mpr ⟨Options.shownTexts_problemTexts.mpr htitles, rfl⟩
  · rintro ⟨b, hrun, hended⟩
    obtain ⟨hsettles, rfl⟩ := Batch.run_eq_ok_iff.mp hrun
    rw [r.ending_of_run hartifacts hjobs hrun] at hended
    refine ⟨fun j hj => (Job.settles_iff.mp (hsettles j hj)).1,
      fun j hj => (Job.settles_iff.mp (hsettles j hj)).2, ?_⟩
    exact Options.shownTexts_problemTexts.mp (Ending.ofShown_eq_status_iff.mp hended).1

theorem inputForeseen_of_builds {artifacts : List Artifact} {jobs : List Job}
    (h : r.Builds artifacts jobs) : r.InputForeseen := by
  obtain ⟨hartifacts, hjobs⟩ := r.builds_iff.mp h
  have hinput := r.not_hasDefect_artifactsIn_iff.mp (by
    rw [hartifacts]
    exact not_hasDefect_ok _)
  have hresults := r.not_hasDefect_jobsIn_iff.mp (by
    rw [hjobs]
    exact not_hasDefect_ok _)
  exact ⟨hinput.1, hinput.2.1, hinput.2.2, fun _ => hresults⟩

/-- Where no artifacts and jobs can be made, the run ends at a fault, which is a defect unless the input
is foreseen. -/
theorem exists_ending_of_not_builds (h : ¬ ∃ artifacts jobs, r.Builds artifacts jobs) :
    ∃ e, (report host o d).ending = .ofFault e ∧
      ((¬ ∃ d, e = .defect d) ↔ r.InputForeseen) := by
  cases hartifacts : artifactsIn host o d with
  | error e =>
    have hno : ¬ ∃ artifacts, r.Loads artifacts := by
      rintro ⟨artifacts, hloads⟩
      cases hartifacts.symm.trans (r.artifactsIn_eq_ok_iff.mpr hloads)
    refine ⟨e, r.ending_of_artifactsIn hartifacts, ?_⟩
    rw [← hasDefect_error_iff, ← hartifacts, r.not_hasDefect_artifactsIn_iff]
    exact ⟨fun hinput => ⟨hinput.1, hinput.2.1, hinput.2.2, fun hloads => absurd hloads hno⟩,
      fun hinput => ⟨hinput.build, hinput.object, hinput.records⟩⟩
  | ok artifacts =>
    have hloads := r.artifactsIn_eq_ok_iff.mp hartifacts
    have hinput := r.not_hasDefect_artifactsIn_iff.mp (by
      rw [hartifacts]
      exact not_hasDefect_ok _)
    cases hjobs : jobsIn host o d artifacts with
    | error e =>
      refine ⟨e, r.ending_of_jobsIn hartifacts hjobs, ?_⟩
      rw [← hasDefect_error_iff, ← hjobs, r.not_hasDefect_jobsIn_iff]
      exact ⟨fun hresults => ⟨hinput.1, hinput.2.1, hinput.2.2, fun _ => hresults⟩,
        fun hforeseen => hforeseen.results ⟨artifacts, hloads⟩⟩
    | ok jobs => exact absurd ⟨artifacts, jobs, r.builds_iff.mpr ⟨hartifacts, hjobs⟩⟩ h

/-- A run that is not cut off is handled. -/
theorem handled_of_ended {n : Nat} (hn : (report host o d).ending = .status n) : r.Handled := by
  by_cases hbuilds : ∃ artifacts jobs, r.Builds artifacts jobs
  · obtain ⟨artifacts, jobs, h⟩ := hbuilds
    obtain ⟨hartifacts, hjobs⟩ := r.builds_iff.mp h
    rw [r.handled_of_builds h]
    cases hrun : Batch.run r.config jobs with
    | error e =>
      -- A batch is only given up at a defect, and that would have cut the run off.
      obtain ⟨j, _, he, hreported⟩ := Batch.exists_of_run_eq_error hrun
      have hfaults : FaultsIn (fun e => e.Told ∨ ∃ d, e = .defect d) (j.outcome r.config) :=
        Job.outcome_faultsIn (fun _ => Or.inl) (fun _ => Or.inr ⟨_, rfl⟩)
          fun _ _ => Or.inl (Or.inr ⟨_, rfl⟩)
      rw [r.ending_of_run_eq_error hartifacts hjobs hrun] at hn
      rcases hfaults e he with htold | ⟨d, rfl⟩
      · rw [htold] at hreported
        cases hreported
      · cases hn
    | ok b =>
      refine ⟨b, rfl, ?_⟩
      rw [r.ending_of_run hartifacts hjobs hrun] at hn ⊢
      exact Ending.ofShown_eq_status_iff.mpr ⟨(Ending.ofShown_eq_status_iff.mp hn).1, rfl⟩
  · rw [r.handled_of_not_builds hbuilds]
    obtain ⟨e, hended, _⟩ := r.exists_ending_of_not_builds hbuilds
    rw [hended] at hn ⊢
    rw [hn, Ending.ofFault_eq_status hn]

/-- A run is without options of a project where no file for them can be read. -/
theorem exists_of_disk {build results : ByteArray} {flaw : PathFlaw}
    (husable : ∀ path ∈ o.paths, Disk.isUsable path = true) (hprinted : o.output = none)
    (hroot : Disk.isUsable o.root = true)
    (hproject : d.read (Disk.childPath o.root Disk.projectFile) = .error flaw)
    (hbuild : d.read o.build = .ok build) (hresults : d.read o.results = .ok results)
    (hwholeBuild : Whole host.maxDepth build) (hwholeResults : Whole host.maxDepth results) :
    ∃ r : FileRun host o d, r.build = build ∧ r.results = results := by
  obtain ⟨config, hconfig⟩ := o.exists_config
  have hnone : d.projectOptions host.optionsDepth o.root = .ok [] := by
    simp only [Disk.projectOptions, hroot, hproject, Bool.not_true, Bool.false_eq_true, if_false]
  exact ⟨⟨config, build, results, husable, hprinted, hconfig, hnone, hbuild, hresults, hwholeBuild,
    hwholeResults⟩, rfl, rfl⟩

end FileRun

def plain : Options where
  build := "b"
  results := "r"
  contracts := []
  minSeverity := none
  swcBlacklist := none
  style := none
  output := none
  projectRoot := none
  jobs := 4
  debug := false
  color := false
  glyphs := false

def twoFiles (build results : ByteArray) : Disk :=
  ⟨[([['b']], .file build), ([['r']], .file results)]⟩

theorem exists_fileRun_plain (host : Host) (build results : ByteArray)
    (hbuild : Whole host.maxDepth build) (hresults : Whole host.maxDepth results) :
    ∃ r : FileRun host plain (twoFiles build results), r.build = build ∧ r.results = results := by
  have hproject : (twoFiles build results).read (Disk.childPath plain.root Disk.projectFile) =
      .error .notFound := rfl
  exact FileRun.exists_of_disk (by decide) rfl (by decide) hproject rfl rfl hbuild hresults

theorem whole_of_fromUTF8? {maxDepth : Nat} {bytes : ByteArray}
    (h : (String.fromUTF8? bytes).all Json.isWhole = true) : Whole maxDepth bytes := by
  intro s v hs _
  rw [hs] at h
  exact h

def oneContract : ByteArray :=
  "\x7b\"contractName\":\"A\"\x7d".toUTF8

def oneWarning : ByteArray :=
  "[\x7b\"meta\":\x7b\"logs\":[\x7b\"level\":\"warn\"\x7d]\x7d\x7d]".toUTF8

end AuditReport.Command
