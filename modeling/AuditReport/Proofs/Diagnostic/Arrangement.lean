import AuditReport.Proofs.Diagnostic.Merge

/-!
# Arranged records

The records of a combined report are arranged: once each, in ascending order, and at every place in
the order in which they first come. This determines them, since records in ascending order are told by
the records at each place. So leaving out a class of records may be done before or after, and it does
not matter which parts of the records were arranged already. What reports come to on a path is told by
the arrangement of their records there and by two sums.
-/
namespace AuditReport

def arrange (rs : List Record) : List Record :=
  firstSeen (sortRecords rs)

@[simp] theorem arrange_nil : arrange [] = [] := by
  rw [arrange, sortRecords, List.mergeSort_nil, firstSeen_nil]

theorem arrange_ascending (rs : List Record) :
    (arrange rs).Pairwise fun a b => a.compare b ≤ 0 :=
  firstSeen_sortRecords_ascending rs

theorem filter_isAt_arrange (a : Record) (rs : List Record) :
    (arrange rs).filter a.isAt = firstSeen (rs.filter a.isAt) := by
  rw [arrange, ← firstSeen_filter, filter_isAt_sortRecords]

/-- Ascending records with the right records at each place are the arranged ones. -/
theorem eq_arrange {xs rs : List Record} (hxs : xs.Pairwise fun a b => a.compare b ≤ 0)
    (h : ∀ a : Record, xs.filter a.isAt = firstSeen (rs.filter a.isAt)) : xs = arrange rs := by
  apply eq_of_filter_isAt_eq hxs (arrange_ascending rs)
  intro a
  rw [h a, filter_isAt_arrange]

theorem arrange_congr {xs rs : List Record}
    (h : ∀ a : Record, firstSeen (xs.filter a.isAt) = firstSeen (rs.filter a.isAt)) :
    arrange xs = arrange rs := by
  apply eq_arrange (arrange_ascending xs)
  intro a
  rw [filter_isAt_arrange, h a]

theorem arrange_filter (p : Record → Bool) (rs : List Record) :
    arrange (rs.filter p) = (arrange rs).filter p := by
  symm
  apply eq_arrange ((arrange_ascending rs).filter p)
  intro a
  calc
    ((arrange rs).filter p).filter a.isAt = ((arrange rs).filter a.isAt).filter p :=
      List.filter_comm a.isAt p _
    _ = (firstSeen (rs.filter a.isAt)).filter p := by rw [filter_isAt_arrange]
    _ = firstSeen ((rs.filter a.isAt).filter p) := (firstSeen_filter p _).symm
    _ = firstSeen ((rs.filter p).filter a.isAt) := by rw [List.filter_comm]

theorem arrange_append_arrange (xs ys : List Record) :
    arrange (arrange xs ++ arrange ys) = arrange (xs ++ ys) := by
  apply arrange_congr
  intro a
  rw [List.filter_append, List.filter_append, filter_isAt_arrange, filter_isAt_arrange,
    firstSeen_append_firstSeen]

theorem arrange_append_of_subset {xs ys : List Record} (h : ∀ m ∈ ys, m ∈ xs) :
    arrange (xs ++ ys) = arrange xs := by
  apply arrange_congr
  intro a
  rw [List.filter_append]
  apply firstSeen_append_of_subset
  intro m hm
  obtain ⟨hm, ha⟩ := List.mem_filter.mp hm
  exact List.mem_filter.mpr ⟨h m hm, ha⟩

theorem recordsOn_append (path : String) (xs ys : List FileReport) :
    recordsOn path (xs ++ ys) = recordsOn path xs ++ recordsOn path ys := by
  rw [recordsOn, List.filter_append, List.flatMap_append, recordsOn, recordsOn]

namespace FileReport

def countOn (count : FileReport → Int) (path : String) (rs : List FileReport) : Int :=
  ((rs.filter fun r => r.path = path).map count).sum

theorem countOn_append (count : FileReport → Int) (path : String) (xs ys : List FileReport) :
    countOn count path (xs ++ ys) = countOn count path xs + countOn count path ys := by
  rw [countOn, List.filter_append, List.map_append, List.sum_append, countOn, countOn]

theorem merged_eq (rs : List FileReport) (path : String) : merged rs path =
    ⟨path, errorCount (arrange (recordsOn path rs)), warningCount (arrange (recordsOn path rs)),
      countOn fixableErrors path rs, countOn fixableWarnings path rs,
      arrange (recordsOn path rs)⟩ := rfl

theorem merged_congr {xs ys : List FileReport} {path : String}
    (hrecords : arrange (recordsOn path xs) = arrange (recordsOn path ys))
    (herrors : countOn fixableErrors path xs = countOn fixableErrors path ys)
    (hwarnings : countOn fixableWarnings path xs = countOn fixableWarnings path ys) :
    merged xs path = merged ys path := by
  rw [merged_eq, merged_eq, hrecords, herrors, hwarnings]

theorem combine_congr {xs ys : List FileReport}
    (hpaths : firstSeen (xs.map path) = firstSeen (ys.map path))
    (hmerged : ∀ p, merged xs p = merged ys p) : combine xs = combine ys := by
  rw [combine_eq, combine_eq, hpaths]
  exact List.map_congr_left fun p _ => hmerged p

end FileReport
end AuditReport
