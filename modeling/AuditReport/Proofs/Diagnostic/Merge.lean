import AuditReport.Proofs.Diagnostic.Order
import AuditReport.Proofs.FirstSeen
import Mathlib.Algebra.BigOperators.Group.List.Basic
import Mathlib.Algebra.Ring.Int.Defs
import Mathlib.Data.List.Induction

/-!
# Reports merged by path

Adding reports one after the other is the same as adding, path by path, all reports on that path.
This gives the merged report of a path in closed form, from which its canonical form is read off:
records once each, in ascending order, those at the same place in the order in which they first come.
-/
namespace AuditReport

def recordsOn (path : String) (rs : List FileReport) : List Record :=
  (rs.filter fun r => r.path = path).flatMap (·.records)

theorem mem_recordsOn {m : Record} {path : String} {rs : List FileReport} :
    m ∈ recordsOn path rs ↔ ∃ r ∈ rs, r.path = path ∧ m ∈ r.records := by
  simp [recordsOn, and_assoc]

namespace FileReport

/-- All reports on a path as one, the counts added and the records appended. -/
def total (rs : List FileReport) (path : String) : FileReport :=
  let on := rs.filter fun r => r.path = path
  ⟨path, (on.map errors).sum, (on.map warnings).sum, (on.map fixableErrors).sum,
    (on.map fixableWarnings).sum, recordsOn path rs⟩

theorem total_append_self (rs : List FileReport) (s : FileReport) :
    total (rs ++ [s]) s.path = (total rs s.path).add s := by
  simp [total, add, recordsOn]

theorem total_append_of_ne (rs : List FileReport) {s : FileReport} {path : String}
    (h : s.path ≠ path) : total (rs ++ [s]) path = total rs path := by
  simp [total, recordsOn, h]

theorem filter_path_eq_nil {rs : List FileReport} {p : String} (hp : p ∉ rs.map path) :
    (rs.filter fun r => r.path = p) = [] := by
  apply List.filter_eq_nil_iff.mpr
  intro r hr he
  exact hp (List.mem_map.mpr ⟨r, hr, of_decide_eq_true he⟩)

/-- A report on a path of its own is all there is on that path. -/
theorem total_append_of_not_mem {rs : List FileReport} {s : FileReport}
    (h : s.path ∉ rs.map path) : total (rs ++ [s]) s.path = s := by
  simp [total, recordsOn, filter_path_eq_nil h]

theorem addTo_map {f : String → FileReport} (hf : ∀ p, (f p).path = p) {ps : List String}
    (hps : ps.Nodup) (s : FileReport) :
    addTo (ps.map f) s = (ps.map fun p => if s.path = p then (f p).add s else f p) ++
      if s.path ∈ ps then [] else [s] := by
  induction ps with
  | nil => rfl
  | cons p ps ih =>
    obtain ⟨hp, hps⟩ := List.nodup_cons.mp hps
    rw [List.map_cons, addTo, hf p]
    by_cases he : s.path = p
    · subst he
      have hrest : (ps.map fun p => if s.path = p then (f p).add s else f p) = ps.map f := by
        apply List.map_congr_left
        intro q hq
        rw [if_neg fun (h : s.path = q) => hp (h ▸ hq)]
      simp [hrest]
    · rw [if_neg (Ne.symm he), ih hps]
      simp [he]

/-- Adding reports one by one adds all those on one path, in the order of the paths. -/
theorem foldl_addTo (rs : List FileReport) :
    rs.foldl addTo [] = (firstSeen (rs.map path)).map (total rs) := by
  induction rs using List.reverseRecOn with
  | nil => rfl
  | append_singleton rs s ih =>
    rw [List.foldl_append, List.foldl_cons, List.foldl_nil, ih,
      addTo_map (fun _ => rfl) (nodup_firstSeen _), List.map_append, List.map_singleton,
      firstSeen_append_singleton, List.map_append]
    simp only [mem_firstSeen]
    congr 1
    · apply List.map_congr_left
      intro p _
      by_cases he : s.path = p
      · rw [if_pos he, ← he, total_append_self]
      · rw [if_neg he, total_append_of_ne rs he]
    · by_cases hs : s.path ∈ rs.map path
      · rw [if_pos hs, if_pos hs, List.map_nil]
      · rw [if_neg hs, if_neg hs, List.map_singleton, total_append_of_not_mem hs]

def merged (rs : List FileReport) (path : String) : FileReport :=
  (total rs path).sorted.dedupe

theorem combine_eq (rs : List FileReport) :
    combine rs = (firstSeen (rs.map path)).map (merged rs) := by
  rw [combine, mergeByPath, foldl_addTo, List.map_map, List.map_map]
  rfl

theorem map_path_combine (rs : List FileReport) :
    (combine rs).map path = firstSeen (rs.map path) := by
  rw [combine_eq, List.map_map]
  exact List.map_id _

/-- A combined report is the merged one of its path. -/
theorem eq_merged_of_mem_combine {rs : List FileReport} {r : FileReport} (hr : r ∈ combine rs) :
    r = merged rs r.path := by
  rw [combine_eq] at hr
  obtain ⟨p, _, rfl⟩ := List.mem_map.mp hr
  rfl

@[simp] theorem merged_records (rs : List FileReport) (path : String) :
    (merged rs path).records = firstSeen (sortRecords (recordsOn path rs)) := rfl

theorem mem_merged_records {m : Record} {rs : List FileReport} {path : String} :
    m ∈ (merged rs path).records ↔ ∃ r ∈ rs, r.path = path ∧ m ∈ r.records := by
  rw [merged_records, mem_firstSeen, mem_sortRecords, mem_recordsOn]

/-- Combining keeps the records of every path. -/
theorem exists_mem_combine_iff {rs : List FileReport} {path : String} {m : Record} :
    (∃ r ∈ combine rs, r.path = path ∧ m ∈ r.records) ↔
      ∃ r ∈ rs, r.path = path ∧ m ∈ r.records := by
  constructor
  · rintro ⟨r, hr, rfl, hm⟩
    rw [eq_merged_of_mem_combine hr, mem_merged_records] at hm
    exact hm
  · rintro ⟨r, hr, rfl, hm⟩
    have hpath : r.path ∈ firstSeen (rs.map path) := mem_firstSeen.mpr (List.mem_map_of_mem hr)
    refine ⟨merged rs r.path, ?_, rfl, mem_merged_records.mpr ⟨r, hr, rfl, hm⟩⟩
    rw [combine_eq]
    exact List.mem_map_of_mem hpath

end FileReport

/-- Leaving out repetitions keeps records in ascending order. -/
theorem firstSeen_sortRecords_ascending (rs : List Record) :
    (firstSeen (sortRecords rs)).Pairwise fun a b => a.compare b ≤ 0 :=
  (sortRecords_ascending rs).sublist (firstSeen_sublist _)

/-- Records at one place stand in the order in which they first come before sorting. -/
theorem firstSeen_sortRecords_stable (rs : List Record) :
    (firstSeen (sortRecords rs)).Pairwise fun a b =>
      a.compare b = 0 → rs.idxOf a < rs.idxOf b := by
  rw [List.pairwise_iff_forall_sublist]
  intro a b hab heq
  -- The class of `a` is not moved by sorting, so `a` and `b` stand in it as in the input.
  have hclass : (firstSeen (sortRecords rs)).filter a.isAt = (firstSeen rs).filter a.isAt := by
    rw [← firstSeen_filter, filter_isAt_sortRecords, firstSeen_filter]
  have hsub : [a, b].Sublist (firstSeen rs) := by
    have h := hab.filter a.isAt
    rw [hclass] at h
    have hpair : [a, b].filter a.isAt = [a, b] := by simp [Record.isAt, a.compare_self, heq]
    rw [hpair] at h
    exact h.trans List.filter_sublist
  exact List.pairwise_iff_forall_sublist.mp (firstSeen_pairwise_idxOf rs) hsub

end AuditReport
