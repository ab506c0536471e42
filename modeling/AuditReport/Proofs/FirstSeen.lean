import AuditReport.Diagnostic.Merge
import Mathlib.Data.List.Nodup

/-!
# Items in the order in which they first come

`firstSeen` keeps the first of equal items. What it gives has every item once, in the order of the
places at which the items first come, and it commutes with leaving out a class of items.
-/
namespace AuditReport

variable {α : Type} [DecidableEq α]

/-- What was seen before is left out; it does not change the rest. -/
theorem firstSeenFrom_eq_filter (seen xs : List α) :
    firstSeenFrom seen xs = (firstSeen xs).filter fun a => a ∉ seen := by
  unfold firstSeen
  induction xs generalizing seen with
  | nil => rfl
  | cons a xs ih =>
    have hfirst : firstSeenFrom [] (a :: xs) = a :: (firstSeenFrom [] xs).filter fun b => b ∉ [a] := by
      rw [firstSeenFrom, if_neg List.not_mem_nil, ih [a]]
    rw [hfirst, firstSeenFrom]
    by_cases ha : a ∈ seen
    · rw [if_pos ha, ih seen, List.filter_cons_of_neg (by simpa using ha), List.filter_filter]
      apply List.filter_congr
      intro b _
      by_cases hb : b = a <;> simp [hb, ha]
    · rw [if_neg ha, ih (a :: seen), List.filter_cons_of_pos (by simpa using ha), List.filter_filter]
      congr 1
      apply List.filter_congr
      intro b _
      by_cases hb : b = a <;> simp [hb]

@[simp] theorem firstSeen_nil : firstSeen ([] : List α) = [] := rfl

theorem firstSeen_cons (a : α) (xs : List α) :
    firstSeen (a :: xs) = a :: (firstSeen xs).filter fun b => b ≠ a := by
  rw [firstSeen, firstSeenFrom, if_neg List.not_mem_nil, firstSeenFrom_eq_filter]
  simp

@[simp] theorem mem_firstSeen {a : α} {xs : List α} : a ∈ firstSeen xs ↔ a ∈ xs := by
  induction xs with
  | nil => simp
  | cons b xs ih =>
    rw [firstSeen_cons, List.mem_cons, List.mem_cons, List.mem_filter, ih]
    by_cases hb : a = b <;> simp [hb]

theorem firstSeen_sublist (xs : List α) : (firstSeen xs).Sublist xs := by
  induction xs with
  | nil => exact List.nil_sublist _
  | cons a xs ih =>
    rw [firstSeen_cons]
    exact (List.filter_sublist.trans ih).cons_cons a

theorem nodup_firstSeen (xs : List α) : (firstSeen xs).Nodup := by
  induction xs with
  | nil => exact List.nodup_nil
  | cons a xs ih =>
    rw [firstSeen_cons, List.nodup_cons]
    exact ⟨by simp, ih.filter _⟩

/-- Leaving out a class of items before or after makes no difference. -/
theorem firstSeen_filter (p : α → Bool) (xs : List α) :
    firstSeen (xs.filter p) = (firstSeen xs).filter p := by
  induction xs with
  | nil => rfl
  | cons a xs ih =>
    rw [firstSeen_cons]
    by_cases hp : p a = true
    · rw [List.filter_cons_of_pos hp, List.filter_cons_of_pos hp, firstSeen_cons, ih,
        List.filter_comm]
    · rw [List.filter_cons_of_neg hp, List.filter_cons_of_neg hp, ih, List.filter_filter]
      apply List.filter_congr
      intro b _
      by_cases hb : b = a
      · simp [hb, hp]
      · simp [hb]

theorem firstSeen_append (xs ys : List α) :
    firstSeen (xs ++ ys) = firstSeen xs ++ (firstSeen ys).filter fun a => a ∉ xs := by
  induction xs with
  | nil => simp
  | cons a xs ih =>
    rw [List.cons_append, firstSeen_cons, firstSeen_cons, ih, List.filter_append, List.cons_append,
      List.filter_filter]
    congr 2
    apply List.filter_congr
    intro b _
    simp

theorem firstSeen_append_singleton (xs : List α) (a : α) :
    firstSeen (xs ++ [a]) = firstSeen xs ++ if a ∈ xs then [] else [a] := by
  rw [firstSeen_append, firstSeen_cons, firstSeen_nil]
  by_cases ha : a ∈ xs <;> simp [ha]

theorem firstSeen_of_nodup {xs : List α} (h : xs.Nodup) : firstSeen xs = xs := by
  induction xs with
  | nil => rfl
  | cons a xs ih =>
    obtain ⟨ha, hxs⟩ := List.nodup_cons.mp h
    have hkeep : (xs.filter fun b => b ≠ a) = xs := by
      apply List.filter_eq_self.mpr
      intro b hb
      have hne : b ≠ a := fun he => ha (he ▸ hb)
      exact decide_eq_true hne
    rw [firstSeen_cons, ih hxs, hkeep]

/-- It makes no difference whether repetitions were left out of the parts before. -/
theorem firstSeen_append_firstSeen (xs ys : List α) :
    firstSeen (firstSeen xs ++ firstSeen ys) = firstSeen (xs ++ ys) := by
  rw [firstSeen_append, firstSeen_append, firstSeen_of_nodup (nodup_firstSeen xs),
    firstSeen_of_nodup (nodup_firstSeen ys)]
  simp only [mem_firstSeen]

theorem firstSeen_append_of_subset {xs ys : List α} (h : ∀ a ∈ ys, a ∈ xs) :
    firstSeen (xs ++ ys) = firstSeen xs := by
  have hnone : ((firstSeen ys).filter fun a => a ∉ xs) = [] := by
    apply List.filter_eq_nil_iff.mpr
    intro a ha
    simpa using h a (mem_firstSeen.mp ha)
  rw [firstSeen_append, hnone, List.append_nil]

theorem firstSeen_pairwise_idxOf (xs : List α) :
    (firstSeen xs).Pairwise fun a b => xs.idxOf a < xs.idxOf b := by
  induction xs with
  | nil => exact List.Pairwise.nil
  | cons a xs ih =>
    rw [firstSeen_cons, List.pairwise_cons]
    constructor
    · intro b hb
      have hne : b ≠ a := of_decide_eq_true (List.mem_filter.mp hb).2
      rw [List.idxOf_cons_self, List.idxOf_cons_ne _ hne.symm]
      omega
    · apply (ih.filter _).imp_of_mem
      intro b c hb hc hbc
      have hbne : b ≠ a := of_decide_eq_true (List.mem_filter.mp hb).2
      have hcne : c ≠ a := of_decide_eq_true (List.mem_filter.mp hc).2
      rw [List.idxOf_cons_ne _ hbne.symm, List.idxOf_cons_ne _ hcne.symm]
      omega

end AuditReport
