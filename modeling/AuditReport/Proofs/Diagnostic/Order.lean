import AuditReport.Diagnostic.Order
import Mathlib.Data.Prod.Lex
import Mathlib.Tactic.SplitIfs

/-!
# Records in order

Comparing two records compares their keys, four numbers each, those of the start before those of the end.
The comparison is total and transitive, so sorting puts records in ascending order. Records that compare
equal come out as they went in: sorting changes no class of them. Records in ascending order are told
by their classes, so there is only one such order.
-/
namespace AuditReport

theorem comparePlaces_swap (l₁ c₁ l₂ c₂ : Int) :
    comparePlaces l₂ c₂ l₁ c₁ = -comparePlaces l₁ c₁ l₂ c₂ := by
  unfold comparePlaces
  split_ifs <;> omega

theorem comparePlaces_eq_zero_iff {l₁ c₁ l₂ c₂ : Int} :
    comparePlaces l₁ c₁ l₂ c₂ = 0 ↔ l₁ = l₂ ∧ c₁ = c₂ := by
  unfold comparePlaces
  split_ifs <;> omega

theorem comparePlaces_nonpos_iff {l₁ c₁ l₂ c₂ : Int} :
    comparePlaces l₁ c₁ l₂ c₂ ≤ 0 ↔ l₁ < l₂ ∨ l₁ = l₂ ∧ c₁ ≤ c₂ := by
  unfold comparePlaces
  split_ifs <;> omega

namespace Record

theorem compare_swap (a b : Record) : b.compare a = -a.compare b := by
  simp only [compare, comparePlaces_swap a.line, comparePlaces_swap a.endPlace.1]
  split_ifs <;> omega

theorem compare_eq_zero_iff {a b : Record} :
    a.compare b = 0 ↔ a.line = b.line ∧ a.column = b.column ∧ a.endPlace = b.endPlace := by
  rw [Prod.ext_iff, compare]
  split_ifs with h
  · rw [comparePlaces_eq_zero_iff] at h ⊢
    simp only [h, true_and]
  · rw [comparePlaces_eq_zero_iff] at h ⊢
    exact ⟨fun hc => absurd hc h, fun hc => ⟨hc.1, hc.2.1⟩⟩

/-- The order is that of the four numbers, the first difference counting. -/
theorem compare_nonpos_iff {a b : Record} :
    a.compare b ≤ 0 ↔ a.line < b.line ∨ a.line = b.line ∧ (a.column < b.column ∨
      a.column = b.column ∧ (a.endPlace.1 < b.endPlace.1 ∨
        a.endPlace.1 = b.endPlace.1 ∧ a.endPlace.2 ≤ b.endPlace.2)) := by
  rw [compare]
  split_ifs with h
  · rw [comparePlaces_eq_zero_iff] at h
    rw [comparePlaces_nonpos_iff]
    omega
  · rw [comparePlaces_eq_zero_iff] at h
    rw [comparePlaces_nonpos_iff]
    omega

def key (m : Record) : Int ×ₗ Int ×ₗ Int ×ₗ Int :=
  toLex (m.line, toLex (m.column, toLex m.endPlace))

theorem compare_nonpos_iff_key {a b : Record} : a.compare b ≤ 0 ↔ a.key ≤ b.key := by
  simp only [compare_nonpos_iff, key, Prod.Lex.le_iff, ofLex_toLex]

theorem compare_total (a b : Record) : a.compare b ≤ 0 ∨ b.compare a ≤ 0 := by
  rw [compare_swap a b]
  omega

theorem compare_trans {a b c : Record} (hab : a.compare b ≤ 0) (hbc : b.compare c ≤ 0) :
    a.compare c ≤ 0 := by
  rw [compare_nonpos_iff] at hab hbc ⊢
  omega

theorem compare_self (a : Record) : a.compare a = 0 :=
  compare_eq_zero_iff.mpr ⟨rfl, rfl, rfl⟩

def isAt (a x : Record) : Bool :=
  decide (a.compare x = 0)

@[simp] theorem isAt_self (a : Record) : a.isAt a = true :=
  decide_eq_true a.compare_self

theorem compare_nonpos_of_isAt {a x y : Record} (hx : a.isAt x = true) (hy : a.isAt y = true) :
    x.compare y ≤ 0 := by
  have hx := of_decide_eq_true hx
  have hy := of_decide_eq_true hy
  have hxa := compare_swap a x
  exact compare_trans (b := a) (by omega) (by omega)

end Record

theorem sortRecords_perm (rs : List Record) : (sortRecords rs).Perm rs :=
  List.mergeSort_perm rs _

@[simp] theorem mem_sortRecords {m : Record} {rs : List Record} : m ∈ sortRecords rs ↔ m ∈ rs :=
  (sortRecords_perm rs).mem_iff

theorem sortRecords_ascending (rs : List Record) :
    (sortRecords rs).Pairwise fun a b => a.compare b ≤ 0 := by
  have h : (sortRecords rs).Pairwise fun a b => decide (a.compare b ≤ 0) = true :=
    List.pairwise_mergeSort (by simpa using fun a b c => @Record.compare_trans a b c)
      (by simpa using Record.compare_total) rs
  exact h.imp fun hab => of_decide_eq_true hab

/-- Sorting leaves every class of records at one place as it was. -/
theorem filter_sortRecords {p : Record → Bool}
    (hp : ∀ a b, p a = true → p b = true → a.compare b ≤ 0) (rs : List Record) :
    (sortRecords rs).filter p = rs.filter p := by
  have hclass : (rs.filter p).Pairwise fun a b => decide (a.compare b ≤ 0) = true := by
    apply List.pairwise_of_forall_mem_list
    intro a ha b hb
    exact decide_eq_true (hp a b (List.mem_filter.mp ha).2 (List.mem_filter.mp hb).2)
  have hsub : (rs.filter p).Sublist (sortRecords rs) :=
    List.sublist_mergeSort (by simpa using fun a b c => @Record.compare_trans a b c)
      (by simpa using Record.compare_total) hclass List.filter_sublist
  have hkept : (rs.filter p).Sublist ((sortRecords rs).filter p) := by
    simpa using hsub.filter p
  exact (hkept.eq_of_length ((sortRecords_perm rs).filter p).length_eq.symm).symm

theorem filter_isAt_sortRecords (a : Record) (rs : List Record) :
    (sortRecords rs).filter a.isAt = rs.filter a.isAt :=
  filter_sortRecords (fun _ _ => Record.compare_nonpos_of_isAt) rs

theorem mem_of_filter_isAt_eq {xs ys : List Record}
    (h : ∀ a : Record, xs.filter a.isAt = ys.filter a.isAt) {a : Record} (ha : a ∈ xs) : a ∈ ys := by
  have hmem : a ∈ xs.filter a.isAt := List.mem_filter.mpr ⟨ha, a.isAt_self⟩
  rw [h a] at hmem
  exact (List.mem_filter.mp hmem).1

theorem head_eq_of_filter_isAt_eq {x y : Record} {xs ys : List Record}
    (hxs : (x :: xs).Pairwise fun a b => a.compare b ≤ 0)
    (hys : (y :: ys).Pairwise fun a b => a.compare b ≤ 0)
    (h : ∀ a : Record, (x :: xs).filter a.isAt = (y :: ys).filter a.isAt) : x = y := by
  have hy : y ∈ x :: xs := mem_of_filter_isAt_eq (fun a => (h a).symm) List.mem_cons_self
  have hx : x ∈ y :: ys := mem_of_filter_isAt_eq h List.mem_cons_self
  have hxy : x.compare y ≤ 0 := by
    rcases List.mem_cons.mp hy with rfl | hy
    · exact Int.le_of_eq (Record.compare_self y)
    · exact List.rel_of_pairwise_cons hxs hy
  have hyx : y.compare x ≤ 0 := by
    rcases List.mem_cons.mp hx with rfl | hx
    · exact Int.le_of_eq (Record.compare_self x)
    · exact List.rel_of_pairwise_cons hys hx
  -- Each head comes first, so they are at one place, and the class of that place begins with both.
  have hat : x.isAt y = true := by
    have hswap := Record.compare_swap x y
    exact decide_eq_true (by omega)
  have hclass := h x
  rw [List.filter_cons_of_pos x.isAt_self, List.filter_cons_of_pos hat] at hclass
  exact (List.cons.inj hclass).1

/-- Records in ascending order are told by the records at each place in turn. -/
theorem eq_of_filter_isAt_eq {xs ys : List Record} (hxs : xs.Pairwise fun a b => a.compare b ≤ 0)
    (hys : ys.Pairwise fun a b => a.compare b ≤ 0)
    (h : ∀ a : Record, xs.filter a.isAt = ys.filter a.isAt) : xs = ys := by
  induction xs generalizing ys with
  | nil =>
    cases ys with
    | nil => rfl
    | cons y ys => cases mem_of_filter_isAt_eq (fun a => (h a).symm) List.mem_cons_self
  | cons x xs ih =>
    cases ys with
    | nil => cases mem_of_filter_isAt_eq h List.mem_cons_self
    | cons y ys =>
      obtain rfl := head_eq_of_filter_isAt_eq hxs hys h
      congr 1
      apply ih hxs.of_cons hys.of_cons
      intro a
      have ha := h a
      by_cases hx : a.isAt x = true
      · rw [List.filter_cons_of_pos hx, List.filter_cons_of_pos hx] at ha
        exact (List.cons.inj ha).2
      · rwa [List.filter_cons_of_neg hx, List.filter_cons_of_neg hx] at ha

end AuditReport
