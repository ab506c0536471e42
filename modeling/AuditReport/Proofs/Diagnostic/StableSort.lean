import AuditReport.Proofs.Diagnostic.Order

/-!
# The stable sort of records

The sign of a comparison is the order of the two keys. The key of a record that has no end, or half of one,
ends in (-1, -1), so the record comes before all that start at the same place and end in a line. Sorting
gives the one list with the same records in which the keys ascend and the records of every key stand as they
stood before, whichever way it is found.
-/
namespace AuditReport

namespace Record

theorem compare_nonneg_iff_key {a b : Record} : 0 ≤ a.compare b ↔ b.key ≤ a.key := by
  rw [← compare_nonpos_iff_key, compare_swap a b]
  omega

theorem compare_neg_iff_key {a b : Record} : a.compare b < 0 ↔ a.key < b.key := by
  calc
    a.compare b < 0 ↔ ¬ 0 ≤ a.compare b := not_le.symm
    _ ↔ ¬ b.key ≤ a.key := not_congr compare_nonneg_iff_key
    _ ↔ a.key < b.key := not_le

theorem compare_pos_iff_key {a b : Record} : 0 < a.compare b ↔ b.key < a.key := by
  calc
    0 < a.compare b ↔ ¬ a.compare b ≤ 0 := not_le.symm
    _ ↔ ¬ a.key ≤ b.key := not_congr compare_nonpos_iff_key
    _ ↔ b.key < a.key := not_le

theorem compare_eq_zero_iff_key {a b : Record} : a.compare b = 0 ↔ a.key = b.key := by
  calc
    a.compare b = 0 ↔ a.compare b ≤ 0 ∧ 0 ≤ a.compare b := le_antisymm_iff
    _ ↔ a.key ≤ b.key ∧ b.key ≤ a.key := and_congr compare_nonpos_iff_key compare_nonneg_iff_key
    _ ↔ a.key = b.key := le_antisymm_iff.symm

/-- A record of which half of the end is missing has no end at all. -/
theorem endPlace_of_open {a : Record} (h : a.endLine = none ∨ a.endColumn = none) :
    a.endPlace = (-1, -1) := by
  unfold endPlace
  rcases h with h | h
  · rw [h]
  · rw [h]
    cases a.endLine <;> rfl

theorem endPlace_of_closed {a : Record} {line column : Int} (hline : a.endLine = some line)
    (hcolumn : a.endColumn = some column) : a.endPlace = (line, column) := by
  unfold endPlace
  rw [hline, hcolumn]

theorem compare_neg_of_open {a b : Record} {line column : Int}
    (hopen : a.endLine = none ∨ a.endColumn = none) (hline : b.endLine = some line)
    (hcolumn : b.endColumn = some column) (hnonneg : 0 ≤ line)
    (hstart : a.line = b.line ∧ a.column = b.column) : a.compare b < 0 := by
  have hnot : ¬ b.compare a ≤ 0 := by
    rw [compare_nonpos_iff, endPlace_of_open hopen, endPlace_of_closed hline hcolumn]
    dsimp only
    omega
  rw [compare_swap a b] at hnot
  omega

/-- A total preorder on records, in which the first difference of four numbers counts: the start, then the
end, which is (-1, -1) when one of its fields is missing. -/
structure OrdersByRange (compare : Record → Record → Int) : Prop where
  swap : ∀ a b, (compare b a).sign = -(compare a b).sign
  trans : ∀ a b c, compare a b ≤ 0 → compare b c ≤ 0 → compare a c ≤ 0
  before_iff : ∀ a b, compare a b < 0 ↔ a.key < b.key
  tied_iff : ∀ a b, compare a b = 0 ↔ a.key = b.key
  behind_iff : ∀ a b, 0 < compare a b ↔ b.key < a.key
  openFirst : ∀ a b line column, (a.endLine = none ∨ a.endColumn = none) →
    b.endLine = some line → b.endColumn = some column → 0 ≤ line →
    a.line = b.line ∧ a.column = b.column → compare a b < 0

theorem compare_ordersByRange : OrdersByRange Record.compare where
  swap a b := by rw [compare_swap a b, Int.sign_neg]
  trans _ _ _ := compare_trans
  before_iff _ _ := compare_neg_iff_key
  tied_iff _ _ := compare_eq_zero_iff_key
  behind_iff _ _ := compare_pos_iff_key
  openFirst _ _ _ _ := compare_neg_of_open

end Record

/-- The same items with ascending keys, those of one key in the same order. -/
structure IsStableSort {α κ : Type} [LE κ] [DecidableEq κ] (key : α → κ) (xs ys : List α) : Prop where
  perm : ys.Perm xs
  ascending : ys.Pairwise fun a b => key a ≤ key b
  stable : ∀ k, (ys.filter fun a => key a = k) = xs.filter fun a => key a = k

structure SortsStably (sort : List Record → List Record) (rs : List Record) : Prop where
  perm : (sort rs).Perm rs
  ascending : (sort rs).Pairwise fun a b => a.compare b ≤ 0
  stable : ∀ a : Record, ((sort rs).filter fun b => a.compare b = 0) = rs.filter fun b => a.compare b = 0
  isStableSort_iff : ∀ ss, IsStableSort Record.key rs ss ↔ ss = sort rs
  idempotent : sort (sort rs) = sort rs

section Sorting

variable {rs ss : List Record}

theorem isStableSort_sortRecords (rs : List Record) : IsStableSort Record.key rs (sortRecords rs) where
  perm := sortRecords_perm rs
  ascending := (sortRecords_ascending rs).imp Record.compare_nonpos_iff_key.mp
  stable k := by
    apply filter_sortRecords
    intro a b ha hb
    rw [Record.compare_nonpos_iff_key, of_decide_eq_true ha, of_decide_eq_true hb]

/-- The classes of records with one key are those of records at one place, and these and their order tell
the whole list. -/
theorem IsStableSort.eq_sortRecords (h : IsStableSort Record.key rs ss) : ss = sortRecords rs := by
  have hascending : ss.Pairwise fun a b => a.compare b ≤ 0 :=
    h.ascending.imp Record.compare_nonpos_iff_key.mpr
  apply eq_of_filter_isAt_eq hascending (sortRecords_ascending rs)
  intro a
  have hclass : a.isAt = fun b : Record => decide (b.key = a.key) := by
    funext b
    rw [Record.isAt, decide_eq_decide, Record.compare_eq_zero_iff_key]
    exact eq_comm
  rw [filter_isAt_sortRecords, hclass]
  exact h.stable a.key

theorem sortRecords_sortRecords (rs : List Record) : sortRecords (sortRecords rs) = sortRecords rs :=
  (IsStableSort.eq_sortRecords ⟨List.Perm.refl _, (isStableSort_sortRecords rs).ascending,
    fun _ => rfl⟩).symm

end Sorting

/-- Records are ordered by their ranges, and sorting them is the stable sort in that order. -/
theorem sortRecords_sortsByRange :
    Record.OrdersByRange Record.compare ∧ ∀ rs, SortsStably sortRecords rs := by
  refine ⟨Record.compare_ordersByRange, fun rs => ?_⟩
  refine ⟨sortRecords_perm rs, sortRecords_ascending rs, fun a => filter_isAt_sortRecords a rs,
    fun ss => ⟨IsStableSort.eq_sortRecords, ?_⟩, sortRecords_sortRecords rs⟩
  rintro rfl
  exact isStableSort_sortRecords rs

end AuditReport
