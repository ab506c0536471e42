import AuditReport.Contract.Batch
import AuditReport.Proofs.Contract.Conservation
import AuditReport.Proofs.Contract.Pool

/-!
# Batches do not depend on the schedule

Where every job ends in a report or in a fault that can be reported, the batch is told by the jobs
alone: it has the report of each job that succeeds and a line for each that fails, in the order of the
jobs. Gathering gives this batch from completions in any order, so from those of every run of a pool
with any number of workers.
-/
namespace AuditReport

namespace Job

variable (config : ReportConfig) (j : Job)

def outcome : Except Fault ContractReport :=
  (ContractReport.ofResults j.artifact j.results config).outcome

def report? : Option ContractReport :=
  (j.outcome config).toOption

def failure? : Option String :=
  match j.outcome config with
  | .ok _ => none
  | .error e => some (j.artifact.name ++ ": " ++ e.message)

def completion : Completion :=
  match j.outcome config with
  | .ok r => .report r
  | .error e => .failure (j.artifact.name ++ ": " ++ e.message)

theorem report?_completion : (j.completion config).report? = j.report? config := by
  rw [completion, report?]
  cases j.outcome config <;> rfl

theorem failure?_completion : (j.completion config).failure? = j.failure? config := by
  rw [completion, failure?]
  cases j.outcome config <;> rfl

def Settles : Prop :=
  ∀ e, j.outcome config = .error e → e.isReported = true

variable {config j}

theorem complete_eq (h : j.Settles config) : j.complete config = .ok (j.completion config) := by
  change (match j.outcome config with
    | .ok r => _
    | .error e => _) = _
  rw [completion]
  cases ho : j.outcome config with
  | ok r => rfl
  | error e => exact if_pos (h e ho)

/-- Only a fault that cannot be reported is passed on. -/
theorem complete_eq_error_iff {e : Fault} :
    j.complete config = .error e ↔ j.outcome config = .error e ∧ e.isReported = false := by
  change (match j.outcome config with
    | .ok r => _
    | .error e => _) = _ ↔ _
  cases ho : j.outcome config with
  | ok r => simp
  | error d =>
    simp only [Except.error.injEq]
    constructor
    · intro h
      split_ifs at h with hd
      cases h
      exact ⟨rfl, Bool.eq_false_iff.mpr hd⟩
    · rintro ⟨rfl, hd⟩
      exact if_neg (Bool.eq_false_iff.mp hd)

theorem failure?_isSome_iff : (j.failure? config).isSome = true ↔ j.report? config = none := by
  rw [failure?, report?]
  cases j.outcome config <;> simp [Except.toOption]

/-- A job fails when one of its results does, whatever came of the results before. -/
theorem report?_eq_none_of_result {v : ContractView} (hv : ContractView.ofArtifact j.artifact = .ok v)
    {r : AnalysisResult} (hr : r ∈ j.results) {e : Fault}
    (he : (ContractReport.resultReports v config r).outcome = .error e) : j.report? config = none := by
  cases ho : j.outcome config with
  | error f => rw [report?, ho]; rfl
  | ok c =>
    obtain ⟨w, hw, hc⟩ := Noted.outcome_bind_eq_ok_iff.mp ho
    obtain ⟨reports, hreports, _⟩ := Noted.outcome_bind_eq_ok_iff.mp hc
    cases hv.symm.trans hw
    obtain ⟨rs, _, hrs⟩ := exists_right_of_forall₂ (Noted.outcome_each_eq_ok_iff.mp hreports) hr
    cases he.symm.trans hrs

end Job

namespace Batch

variable {config : ReportConfig} {jobs : List Job}

def completed? (config : ReportConfig) (jobs : List Job) (i : Nat) : Option (Nat × Completion) :=
  jobs[i]?.map fun j => (i, j.completion config)

theorem completeAll_eq (h : ∀ j ∈ jobs, j.Settles config) (order : List Nat) :
    completeAll config jobs order = .ok (order.filterMap (completed? config jobs)) := by
  induction order with
  | nil => rfl
  | cons i order ih =>
    rw [completeAll]
    cases hj : jobs[i]? with
    | none =>
      have hnone : completed? config jobs i = none := by rw [completed?, hj]; rfl
      rw [List.filterMap_cons_none hnone]
      exact ih
    | some j =>
      have hsome : completed? config jobs i = some (i, j.completion config) := by
        rw [completed?, hj]
        rfl
      simp only [Job.complete_eq (h j (List.mem_of_getElem? hj)), ih]
      rw [List.filterMap_cons_some hsome]
      rfl

theorem fst_of_completed? {i : Nat} {c : Nat × Completion} (h : completed? config jobs i = some c) :
    c.1 = i := by
  obtain ⟨j, _, rfl⟩ := Option.map_eq_some_iff.mp h
  rfl

/-- The completion of a job is found by its position, wherever it came. -/
theorem find?_completed {order : List Nat} {i : Nat} (hi : i ∈ order) :
    ((order.filterMap (completed? config jobs)).find? fun c => c.1 == i) =
      completed? config jobs i := by
  -- A completion carries the position of its job, so whichever is found is the one of job `i`.
  cases hfind : (order.filterMap (completed? config jobs)).find? fun c => c.1 == i with
  | none =>
    cases hc : completed? config jobs i with
    | none => rfl
    | some c =>
      have hne := List.find?_eq_none.mp hfind c (List.mem_filterMap.mpr ⟨i, hi, hc⟩)
      exact absurd (beq_iff_eq.mpr (fst_of_completed? hc)) hne
  | some d =>
    obtain ⟨k, _, hd⟩ := List.mem_filterMap.mp (List.mem_of_find?_eq_some hfind)
    have hdi := List.find?_some hfind
    rw [← beq_iff_eq.mp hdi, fst_of_completed? hd, hd]

/-- Positions one after the other go through all items. -/
theorem filterMap_range_getElem? {α : Type} (xs : List α) :
    (List.range xs.length).filterMap (fun i => xs[i]?) = xs := by
  induction xs with
  | nil => rfl
  | cons x xs ih =>
    have hfirst : (x :: xs)[0]? = some x := rfl
    rw [List.length_cons, List.range_succ_eq_map, List.filterMap_cons, hfirst, List.filterMap_map]
    exact congrArg (x :: ·) ih

theorem gather_completed {order : List Nat} (horder : order.Perm (List.range jobs.length)) :
    gather jobs.length (order.filterMap (completed? config jobs)) =
      ⟨jobs.filterMap (·.report? config), jobs.filterMap (·.failure? config)⟩ := by
  have hinOrder : ((List.range jobs.length).filterMap fun i =>
      ((order.filterMap (completed? config jobs)).find? fun c => c.1 == i).map (·.2)) =
        jobs.map (·.completion config) := by
    calc
      _ = (List.range jobs.length).filterMap fun i => jobs[i]?.map (·.completion config) := by
        apply List.filterMap_congr
        intro i hi
        rw [find?_completed (horder.mem_iff.mpr hi), completed?, Option.map_map]
        rfl
      _ = ((List.range jobs.length).filterMap fun i => jobs[i]?).map (·.completion config) := by
        rw [List.map_filterMap]
      _ = jobs.map (·.completion config) := by rw [filterMap_range_getElem?]
  rw [gather, hinOrder, List.filterMap_map, List.filterMap_map]
  congr 1
  · exact List.filterMap_congr fun j _ => j.report?_completion config
  · exact List.filterMap_congr fun j _ => j.failure?_completion config

theorem length_report?_add_length_failure? (config : ReportConfig) (jobs : List Job) :
    (jobs.filterMap (·.report? config)).length + (jobs.filterMap (·.failure? config)).length =
      jobs.length := by
  have hsplit := List.length_eq_countP_add_countP (fun j : Job => (j.report? config).isSome) (l := jobs)
  rw [List.length_filterMap_eq_countP, List.length_filterMap_eq_countP, hsplit]
  congr 1
  apply List.countP_congr
  intro j _
  rw [Job.failure?_isSome_iff]
  simp

structure OutcomeOf (config : ReportConfig) (jobs : List Job) (b : Batch) : Prop where
  contracts : b.contracts = jobs.filterMap (·.report? config)
  errors : b.errors = jobs.filterMap (·.failure? config)
  counted : b.contracts.length + b.errors.length = jobs.length
  /-- A job that fails on some result leaves no report and no log, of the results before either. -/
  midway : ∀ before j after, jobs = before ++ j :: after →
    ∀ v, ContractView.ofArtifact j.artifact = .ok v →
      ∀ r ∈ j.results, ∀ e, (ContractReport.resultReports v config r).outcome = .error e →
        b.contracts = (before ++ after).filterMap (·.report? config) ∧
          (j.failure? config).isSome = true

theorem outcomeOf_jobs (config : ReportConfig) (jobs : List Job) :
    OutcomeOf config jobs
      ⟨jobs.filterMap (·.report? config), jobs.filterMap (·.failure? config)⟩ where
  contracts := rfl
  errors := rfl
  counted := length_report?_add_length_failure? config jobs
  midway := by
    intro before j after hjobs v hv r hr e he
    have hnone := Job.report?_eq_none_of_result hv hr he
    refine ⟨?_, Job.failure?_isSome_iff.mpr hnone⟩
    change jobs.filterMap (·.report? config) = _
    rw [hjobs, List.filterMap_append, List.filterMap_cons_none hnone, List.filterMap_append]

theorem runIn_of_perm (h : ∀ j ∈ jobs, j.Settles config) {order : List Nat}
    (horder : order.Perm (List.range jobs.length)) : runIn config jobs order =
      .ok ⟨jobs.filterMap (·.report? config), jobs.filterMap (·.failure? config)⟩ := by
  rw [runIn, completeAll_eq h, ← gather_completed horder]
  rfl

theorem exists_of_completeAll_eq_error {order : List Nat} {e : Fault}
    (h : completeAll config jobs order = .error e) : ∃ j ∈ jobs, j.complete config = .error e := by
  induction order with
  | nil => cases h
  | cons i order ih =>
    rw [completeAll] at h
    cases hj : jobs[i]? with
    | none =>
      rw [hj] at h
      exact ih h
    | some j =>
      rw [hj] at h
      cases hc : j.complete config with
      | error d =>
        simp only [hc] at h
        cases h
        exact ⟨j, List.mem_of_getElem? hj, hc⟩
      | ok c =>
        cases hmore : completeAll config jobs order with
        | error d =>
          simp only [hc, hmore] at h
          cases h
          exact ih hmore
        | ok more =>
          simp only [hc, hmore] at h
          cases h

theorem exists_completeAll_eq_error {order : List Nat} {i : Nat} (hi : i ∈ order) {j : Job}
    (hj : jobs[i]? = some j) {e : Fault} (he : j.complete config = .error e) :
    ∃ d, completeAll config jobs order = .error d := by
  induction order with
  | nil => cases hi
  | cons k order ih =>
    rw [completeAll]
    rcases List.mem_cons.mp hi with rfl | hi
    · simp only [hj, he]
      exact ⟨e, rfl⟩
    · obtain ⟨d, hd⟩ := ih hi
      cases jobs[k]? with
      | none => exact ⟨d, hd⟩
      | some m =>
        simp only [hd]
        cases m.complete config with
        | error d => exact ⟨d, rfl⟩
        | ok c => exact ⟨d, rfl⟩

/-- A batch is run to its end exactly if all jobs settle, and then it is the outcome of the jobs. -/
theorem run_eq_ok_iff {b : Batch} : run config jobs = .ok b ↔ (∀ j ∈ jobs, j.Settles config) ∧
    b = ⟨jobs.filterMap (·.report? config), jobs.filterMap (·.failure? config)⟩ := by
  constructor
  · intro h
    have hsettles : ∀ j ∈ jobs, j.Settles config := by
      intro j hj e he
      by_contra hr
      have hc := Job.complete_eq_error_iff.mpr ⟨he, Bool.eq_false_iff.mpr hr⟩
      obtain ⟨i, hi⟩ := List.mem_iff_getElem?.mp hj
      have hrange : i ∈ List.range jobs.length :=
        List.mem_range.mpr (List.getElem?_eq_some_iff.mp hi).1
      obtain ⟨d, hd⟩ := exists_completeAll_eq_error hrange hi hc
      rw [run, runIn, hd] at h
      cases h
    rw [run, runIn_of_perm hsettles (List.Perm.refl _)] at h
    exact ⟨hsettles, (Except.ok.inj h).symm⟩
  · rintro ⟨hsettles, rfl⟩
    exact runIn_of_perm hsettles (List.Perm.refl _)

/-- A batch that is given up has a job with that fault, which cannot be reported. -/
theorem exists_of_run_eq_error {e : Fault} (h : run config jobs = .error e) :
    ∃ j ∈ jobs, j.outcome config = .error e ∧ e.isReported = false := by
  rw [run, runIn] at h
  cases hall : completeAll config jobs (List.range jobs.length) with
  | ok done => rw [hall] at h; cases h
  | error d =>
    rw [hall] at h
    cases h
    obtain ⟨j, hj, he⟩ := exists_of_completeAll_eq_error hall
    exact ⟨j, hj, Job.complete_eq_error_iff.mp he⟩

/-- However many workers there are and however their work is scheduled, a batch comes to an end, and
its outcome is that of the jobs, each on its own. -/
theorem outcome_independent_of_schedule (h : ∀ j ∈ jobs, j.Settles config) (workers : Int) :
    WellFounded (fun q p => Pool.Step workers p q) ∧
    ∃ b, OutcomeOf config jobs b ∧
      (∀ p, Pool.Run workers (Pool.start jobs.length) p → (∀ q, ¬ Pool.Step workers p q) →
        runIn config jobs p.collected = .ok b) ∧
      ∀ order, order.Perm (List.range jobs.length) → runIn config jobs order = .ok b := by
  refine ⟨Pool.wellFounded_step workers, _, outcomeOf_jobs config jobs, ?_, ?_⟩
  · intro p hrun hstuck
    exact runIn_of_perm h (hrun.collected_perm hstuck)
  · intro order horder
    exact runIn_of_perm h horder

def unreadable : AnalysisResult where
  kind := none
  format := some "text"
  sources := ["a.sol"]
  findings := [⟨some "103", none, ⟨"lost", ""⟩, some "High", [⟨"0:1:x", none, none, []⟩], []⟩]
  info := .empty
  source := none

/-- Jobs for contracts of one name, the second of which fails after its first result. -/
def halfReadJobs : List Job :=
  [⟨twoLines "A", [threeFindings]⟩, ⟨twoLines "A", [threeFindings, unreadable]⟩,
    ⟨twoLines "A", [threeFindings]⟩]

theorem halfReadJobs_outcome : (∀ j ∈ halfReadJobs, j.Settles withoutRule102) ∧
    ∃ b, OutcomeOf withoutRule102 halfReadJobs b ∧
      b.contracts.length = 2 ∧ b.errors.length = 1 ∧
      ∀ order, order.Perm (List.range 3) → runIn withoutRule102 halfReadJobs order = .ok b := by
  have hsettles : ∀ j ∈ halfReadJobs, j.Settles withoutRule102 := by
    simp only [halfReadJobs, List.forall_mem_cons]
    refine ⟨?_, ?_, ?_, List.forall_mem_nil _⟩
    all_goals
      intro e he
      cases he
    rfl
  obtain ⟨_, b, hb, _, horder⟩ := outcome_independent_of_schedule hsettles 0
  refine ⟨hsettles, b, hb, ?_, ?_, horder⟩
  · rw [hb.contracts]
    rfl
  · rw [hb.errors]
    rfl

end Batch
end AuditReport
