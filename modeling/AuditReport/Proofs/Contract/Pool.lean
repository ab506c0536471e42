import Mathlib.Data.List.Perm.Basic
import Mathlib.Logic.Relation

/-!
# Jobs in a pool of workers

Jobs are handed over to a pool in order and wait in a queue. A free worker takes the first one that
waits, and workers end in any order. Once all jobs are handed over, those that ended are collected, in
any order as well. A step takes one job one stage further and keeps all others, so every run ends, and
at its end every job was collected once.
-/
namespace AuditReport

structure Pool where
  pending : List Nat
  queued : List Nat
  running : List Nat
  finished : List Nat
  /-- In the order in which they are collected. -/
  collected : List Nat

namespace Pool

def start (count : Nat) : Pool :=
  ⟨List.range count, [], [], [], []⟩

/-- One step of a pool. There is at least one worker, however many are asked for. -/
inductive Step (workers : Int) (p : Pool) : Pool → Prop where
  | submit {i : Nat} {rest : List Nat} (h : p.pending = i :: rest) :
      Step workers p { p with pending := rest, queued := p.queued ++ [i] }
  | take {i : Nat} {rest : List Nat} (h : p.queued = i :: rest)
      (hfree : (p.running.length : Int) < max 1 workers) :
      Step workers p { p with queued := rest, running := i :: p.running }
  | finish {i : Nat} (h : i ∈ p.running) :
      Step workers p { p with running := p.running.erase i, finished := i :: p.finished }
  | collect {i : Nat} (hall : p.pending = []) (h : i ∈ p.finished) :
      Step workers p { p with finished := p.finished.erase i, collected := p.collected ++ [i] }

def Run (workers : Int) : Pool → Pool → Prop :=
  Relation.ReflTransGen (Step workers)

def jobs (p : Pool) : List Nat :=
  p.pending ++ (p.queued ++ (p.running ++ (p.finished ++ p.collected)))

def left (p : Pool) : Nat :=
  4 * p.pending.length + 3 * p.queued.length + 2 * p.running.length + p.finished.length

variable {workers : Int} {p q : Pool}

theorem Step.count_jobs (h : Step workers p q) (j : Nat) : q.jobs.count j = p.jobs.count j := by
  cases h with
  | submit h =>
    simp only [jobs, h, List.count_append, List.count_cons, List.count_nil]
    omega
  | take h _ =>
    simp only [jobs, h, List.count_append, List.count_cons]
    omega
  | @finish i h =>
    have hcount := (List.perm_cons_erase h).count_eq j
    simp only [jobs, List.count_append, List.count_cons] at hcount ⊢
    omega
  | @collect i _ h =>
    have hcount := (List.perm_cons_erase h).count_eq j
    simp only [jobs, List.count_append, List.count_cons, List.count_nil] at hcount ⊢
    omega

theorem Step.left_eq (h : Step workers p q) : p.left = q.left + 1 := by
  cases h with
  | submit h =>
    simp only [left, h, List.length_append, List.length_cons, List.length_nil]
    omega
  | take h _ =>
    simp only [left, h, List.length_cons]
    omega
  | finish h =>
    have hlength := (List.perm_cons_erase h).length_eq
    simp only [left, List.length_cons] at hlength ⊢
    omega
  | collect _ h =>
    have hlength := (List.perm_cons_erase h).length_eq
    simp only [left, List.length_cons] at hlength ⊢
    omega

/-- No run goes on for ever. -/
theorem wellFounded_step (workers : Int) : WellFounded fun q p => Step workers p q := by
  apply Subrelation.wf (r := InvImage (· < ·) left) _ (InvImage.wf left Nat.lt_wfRel.wf)
  intro q p h
  have hleft := h.left_eq
  change q.left < p.left
  omega

theorem Run.jobs_perm {count : Nat} (h : Run workers (start count) p) :
    p.jobs.Perm (List.range count) := by
  induction h with
  | refl =>
    rw [jobs, start]
    simp
  | tail _ hstep ih =>
    apply List.Perm.trans _ ih
    exact List.perm_iff_count.mpr hstep.count_jobs

/-- A pool in which no step is left has been through with all its jobs. -/
theorem jobs_of_stuck (h : ∀ q, ¬ Step workers p q) : p.jobs = p.collected := by
  have hpending : p.pending = [] := by
    cases hp : p.pending with
    | nil => rfl
    | cons i rest => exact absurd (Step.submit hp) (h _)
  have hrunning : p.running = [] := by
    cases hr : p.running with
    | nil => rfl
    | cons i rest => exact absurd (Step.finish (hr ▸ List.mem_cons_self)) (h _)
  have hqueued : p.queued = [] := by
    cases hq : p.queued with
    | nil => rfl
    | cons i rest =>
      have hfree : (p.running.length : Int) < max 1 workers := by
        rw [hrunning, List.length_nil]
        omega
      exact absurd (Step.take hq hfree) (h _)
  have hfinished : p.finished = [] := by
    cases hf : p.finished with
    | nil => rfl
    | cons i rest => exact absurd (Step.collect hpending (hf ▸ List.mem_cons_self)) (h _)
  rw [jobs, hpending, hqueued, hrunning, hfinished]
  rfl

/-- At the end of a run every job was collected once. -/
theorem Run.collected_perm {count : Nat} (h : Run workers (start count) p)
    (hstuck : ∀ q, ¬ Step workers p q) : p.collected.Perm (List.range count) := by
  rw [← jobs_of_stuck hstuck]
  exact h.jobs_perm

end Pool
end AuditReport
