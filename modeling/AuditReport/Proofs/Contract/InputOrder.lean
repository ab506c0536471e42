import AuditReport.Proofs.Contract.Batches

/-!
# Reports in another order

Arranged records are told by their class and their keys by it alone, so the order in which reports are given
only moves paths, and records with one key among each other.
-/
namespace AuditReport

namespace FileReport

/-- Reports that differ at most in the order of records with one key. -/
structure Alike (r s : FileReport) : Prop where
  path : r.path = s.path
  records : ∀ m, m ∈ r.records ↔ m ∈ s.records
  errors : r.errors = s.errors
  warnings : r.warnings = s.warnings
  fixableErrors : r.fixableErrors = s.fixableErrors
  fixableWarnings : r.fixableWarnings = s.fixableWarnings
  keys : r.records.map Record.key = s.records.map Record.key
  untied : (∀ a ∈ r.records, ∀ b ∈ r.records, a.key = b.key → a = b) → r = s

structure AlikeByPath (rs ss : List FileReport) : Prop where
  paths : ∀ p, p ∈ rs.map path ↔ p ∈ ss.map path
  alike : ∀ r ∈ rs, ∀ s ∈ ss, r.path = s.path → r.Alike s

end FileReport

theorem arrange_perm {xs ys : List Record} (h : ∀ m, m ∈ xs ↔ m ∈ ys) :
    (arrange xs).Perm (arrange ys) := by
  apply (List.perm_ext_iff_of_nodup (nodup_firstSeen _) (nodup_firstSeen _)).mpr
  intro m
  rw [mem_firstSeen, mem_firstSeen, mem_sortRecords, mem_sortRecords, h m]

theorem map_key_arrange_ascending (xs : List Record) :
    ((arrange xs).map Record.key).Pairwise (· ≤ ·) :=
  List.pairwise_map.mpr ((arrange_ascending xs).imp Record.compare_nonpos_iff_key.mp)

/-- The same records come to the same keys in order, even where those of one key are in another order. -/
theorem map_key_arrange {xs ys : List Record} (h : ∀ m, m ∈ xs ↔ m ∈ ys) :
    (arrange xs).map Record.key = (arrange ys).map Record.key :=
  List.Perm.eq_of_pairwise (fun _ _ _ _ => le_antisymm) (map_key_arrange_ascending xs)
    (map_key_arrange_ascending ys) ((arrange_perm h).map Record.key)

/-- Without a key that two records share there is only one order. -/
theorem arrange_eq_of_untied {xs ys : List Record} (h : ∀ m, m ∈ xs ↔ m ∈ ys)
    (huntied : ∀ a ∈ arrange xs, ∀ b ∈ arrange xs, a.key = b.key → a = b) :
    arrange xs = arrange ys := by
  have hperm := arrange_perm h
  refine List.Perm.eq_of_pairwise ?_ (arrange_ascending xs) (arrange_ascending ys) hperm
  intro a b ha hb hab hba
  exact huntied a ha b (hperm.mem_iff.mpr hb) (le_antisymm (Record.compare_nonpos_iff_key.mp hab)
    (Record.compare_nonpos_iff_key.mp hba))

namespace FileReport

variable {rs ss : List FileReport}

theorem mem_recordsOn_of_perm (h : rs.Perm ss) (path : String) (m : Record) :
    m ∈ recordsOn path rs ↔ m ∈ recordsOn path ss :=
  ((h.filter _).flatMap_right _).mem_iff

theorem countOn_of_perm (h : rs.Perm ss) (count : FileReport → Int) (path : String) :
    countOn count path rs = countOn count path ss :=
  ((h.filter _).map count).sum_eq

theorem merged_of_perm (h : rs.Perm ss) (path : String) :
    (merged rs path).Alike (merged ss path) := by
  have hrecords := mem_recordsOn_of_perm h path
  have hperm := arrange_perm hrecords
  have herrors := countOn_of_perm h fixableErrors path
  have hwarnings := countOn_of_perm h fixableWarnings path
  rw [merged_eq, merged_eq]
  refine ⟨rfl, fun m => hperm.mem_iff, ?_, ?_, herrors, hwarnings, map_key_arrange hrecords, ?_⟩
  · exact congrArg Nat.cast (hperm.countP_eq _)
  · exact congrArg Nat.cast (hperm.countP_eq _)
  · intro huntied
    rw [arrange_eq_of_untied hrecords huntied, herrors, hwarnings]

/-- The order of the reports that are given is seen in the order of the paths and of tied records only. -/
theorem combine_of_perm (h : rs.Perm ss) : AlikeByPath (combine rs) (combine ss) where
  paths p := by
    rw [map_path_combine, map_path_combine, mem_firstSeen, mem_firstSeen, (h.map path).mem_iff]
  alike r hr s hs hpath := by
    rw [eq_merged_of_mem_combine hr, eq_merged_of_mem_combine hs, ← hpath]
    exact merged_of_perm h r.path

def noteOn (rule : String) : FileReport :=
  ⟨"a.sol", 0, 1, 0, 0, [⟨rule, "", 1, none, 3, 0, none, none, false⟩]⟩

/-- Two tied records stand in the order in which they are given. -/
theorem noteOn_combine_of_perm :
    [noteOn "x", noteOn "y"].Perm [noteOn "y", noteOn "x"] ∧
      AlikeByPath (combine [noteOn "x", noteOn "y"]) (combine [noteOn "y", noteOn "x"]) ∧
      combine [noteOn "x", noteOn "y"] ≠ combine [noteOn "y", noteOn "x"] := by
  have hperm : [noteOn "x", noteOn "y"].Perm [noteOn "y", noteOn "x"] := List.Perm.swap _ _ _
  refine ⟨hperm, combine_of_perm hperm, fun he => ?_⟩
  -- All records are at one place, where arranging leaves them as they come.
  have hrecords := congrArg (fun rs => (recordsOn "a.sol" rs).filter
    (Record.isAt ⟨"x", "", 1, none, 3, 0, none, none, false⟩)) he
  simp only [recordsOn_combine, filter_isAt_arrange] at hrecords
  exact absurd hrecords (by decide)

end FileReport
end AuditReport
