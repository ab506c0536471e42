import AuditReport.Contract.Report
import AuditReport.Proofs.Diagnostic.Arrangement
import AuditReport.Proofs.Noted
import Mathlib.Data.List.Nodup

/-!
# Reports in batches

Combining reports on a path arranges their records and adds their counts, and both can be taken over
parts that were combined before. So it does not matter in which batches reports are combined. A batch
that comes again has no new records, and adds nothing at all where nothing counts as fixable, as in
the reports of contracts.
-/
namespace AuditReport
namespace FileReport

theorem filter_path_combine (rs : List FileReport) (p : String) :
    ((combine rs).filter fun r => r.path = p) =
      if p ∈ rs.map path then [merged rs p] else [] := by
  have hpath : ((fun r : FileReport => decide (r.path = p)) ∘ merged rs) =
      fun q => decide (q = p) := rfl
  rw [combine_eq, List.filter_map, hpath, List.filter_eq, (nodup_firstSeen _).count]
  by_cases hp : p ∈ rs.map path
  · rw [if_pos hp, if_pos (mem_firstSeen.mpr hp)]
    rfl
  · rw [if_neg hp, if_neg fun h => hp (mem_firstSeen.mp h)]
    rfl

theorem recordsOn_combine (p : String) (rs : List FileReport) :
    recordsOn p (combine rs) = arrange (recordsOn p rs) := by
  rw [recordsOn, filter_path_combine]
  by_cases hp : p ∈ rs.map path
  · rw [if_pos hp, List.flatMap_singleton]
    rfl
  · rw [if_neg hp, recordsOn, filter_path_eq_nil hp, List.flatMap_nil, arrange_nil]

theorem countOn_combine {count : FileReport → Int}
    (hcount : ∀ rs p, count (merged rs p) = countOn count p rs) (p : String) (rs : List FileReport) :
    countOn count p (combine rs) = countOn count p rs := by
  rw [countOn, filter_path_combine]
  by_cases hp : p ∈ rs.map path
  · rw [if_pos hp, List.map_singleton, List.sum_singleton, hcount]
  · rw [if_neg hp, countOn, filter_path_eq_nil hp]

/-- A batch may be combined before it is put together with another one. -/
theorem combine_append_combine (xs ys : List FileReport) :
    combine (combine xs ++ combine ys) = combine (xs ++ ys) := by
  apply combine_congr
  · rw [List.map_append, List.map_append, map_path_combine, map_path_combine,
      firstSeen_append_firstSeen]
  intro p
  apply merged_congr
  · rw [recordsOn_append, recordsOn_append, recordsOn_combine, recordsOn_combine,
      arrange_append_arrange]
  · rw [countOn_append, countOn_append, countOn_combine fun _ _ => rfl, countOn_combine fun _ _ => rfl]
  · rw [countOn_append, countOn_append, countOn_combine fun _ _ => rfl, countOn_combine fun _ _ => rfl]

theorem combine_combine (rs : List FileReport) : combine (combine rs) = combine rs := by
  have h := combine_append_combine rs []
  rwa [List.append_nil, show combine [] = [] from rfl, List.append_nil] at h

theorem combine_flatMap_combine (batches : List (List FileReport)) :
    combine (batches.flatMap combine) = combine batches.flatten := by
  induction batches with
  | nil => rfl
  | cons rs batches ih =>
    calc
      combine ((rs :: batches).flatMap combine)
          = combine (combine (combine rs) ++ combine (batches.flatMap combine)) := by
            rw [List.flatMap_cons, combine_append_combine]
      _ = combine (combine rs ++ combine batches.flatten) := by rw [combine_combine, ih]
      _ = combine (rs :: batches).flatten := by rw [combine_append_combine, List.flatten_cons]

def Unfixable (r : FileReport) : Prop :=
  r.fixableErrors = 0 ∧ r.fixableWarnings = 0

theorem countOn_eq_zero {count : FileReport → Int} {rs : List FileReport}
    (h : ∀ r ∈ rs, count r = 0) (p : String) : countOn count p rs = 0 := by
  rw [countOn]
  apply List.sum_eq_zero
  intro n hn
  obtain ⟨r, hr, rfl⟩ := List.mem_map.mp hn
  exact h r (List.mem_filter.mp hr).1

theorem combine_append_of_subset {xs zs : List FileReport} (hxs : ∀ r ∈ xs, r.Unfixable)
    (hzs : ∀ r ∈ zs, r ∈ xs) : combine (xs ++ zs) = combine xs := by
  have hall : ∀ r ∈ xs ++ zs, r.Unfixable := by
    intro r hr
    rcases List.mem_append.mp hr with hr | hr
    · exact hxs r hr
    · exact hxs r (hzs r hr)
  apply combine_congr
  · rw [List.map_append]
    apply firstSeen_append_of_subset
    intro p hp
    obtain ⟨r, hr, rfl⟩ := List.mem_map.mp hp
    exact List.mem_map_of_mem (hzs r hr)
  intro p
  apply merged_congr
  · rw [recordsOn_append]
    apply arrange_append_of_subset
    intro m hm
    obtain ⟨r, hr, hpath, hm⟩ := mem_recordsOn.mp hm
    exact mem_recordsOn.mpr ⟨r, hzs r hr, hpath, hm⟩
  · rw [countOn_eq_zero fun r hr => (hall r hr).1, countOn_eq_zero fun r hr => (hxs r hr).1]
  · rw [countOn_eq_zero fun r hr => (hall r hr).2, countOn_eq_zero fun r hr => (hxs r hr).2]

end FileReport

theorem ContractReport.unfixable {a : Artifact} {results : List AnalysisResult}
    {config : ReportConfig} {c : ContractReport} (h : (ofResults a results config).outcome = .ok c) :
    ∀ r ∈ c.reports, r.Unfixable := by
  obtain ⟨v, _, h⟩ := Noted.outcome_bind_eq_ok_iff.mp h
  obtain ⟨reports, hreports, h⟩ := Noted.outcome_bind_eq_ok_iff.mp h
  cases h
  intro r hr
  obtain ⟨rs, hrs, hr⟩ := List.mem_flatten.mp hr
  obtain ⟨result, _, hrs⟩ := exists_left_of_forall₂ (Noted.outcome_each_eq_ok_iff.mp hreports) hrs
  obtain ⟨groups, _, hrs⟩ := Noted.outcome_bind_eq_ok_iff.mp hrs
  obtain ⟨g, _, hg⟩ := exists_left_of_forall₂ (Noted.outcome_each_eq_ok_iff.mp hrs) hr
  obtain ⟨found, _, hg⟩ := Noted.outcome_bind_eq_ok_iff.mp hg
  cases hg
  exact ⟨rfl, rfl⟩

open FileReport in
theorem combine_independent_of_batches :
    (∀ xs ys, combine (xs ++ ys) = combine (combine xs ++ combine ys)) ∧
    (∀ rs, combine (combine rs) = combine rs) ∧
    (∀ batches : List (List FileReport),
      combine batches.flatten = combine (batches.flatMap combine)) ∧
    (∀ xs zs, (∀ r ∈ xs, r.Unfixable) → (∀ r ∈ zs, r ∈ xs) → combine (xs ++ zs) = combine xs) ∧
    ∀ a results config c, (ContractReport.ofResults a results config).outcome = .ok c →
      ∀ r ∈ c.reports, r.Unfixable :=
  ⟨fun xs ys => (combine_append_combine xs ys).symm, combine_combine,
    fun batches => (combine_flatMap_combine batches).symm,
    fun _ _ => combine_append_of_subset, fun _ _ _ _ => ContractReport.unfixable⟩

end AuditReport
