import AuditReport.Proofs.Text.Pieces
import AuditReport.Text.Numeral
import Mathlib.Tactic.IntervalCases

/-!
# Trimmed texts

Blanks at the ends of a text are not seen in what is left of its pieces when each is trimmed, if the
separator is no blank. A numeral that is trimmed as a text still denotes its number: white space may stand
around it, but no other blank.
-/
namespace AuditReport.Text

section Ends

variable {p : Char → Bool} {s pre post : List Char}

theorem trimOf_eq (p : Char → Bool) (s : List Char) : trimOf p s = (s.dropWhile p).rdropWhile p :=
  rfl

theorem trimOf_append_left (h : ∀ c ∈ pre, p c = true) : trimOf p (pre ++ s) = trimOf p s := by
  rw [trimOf_eq, trimOf_eq, List.dropWhile_append_of_pos h]

theorem trimOf_append_right (h : ∀ c ∈ post, p c = true) : trimOf p (s ++ post) = trimOf p s := by
  have hpost : post.dropWhile p = [] := List.dropWhile_eq_nil_iff.mpr h
  have hreverse : ∀ c ∈ post.reverse, p c = true := fun c hc => h c (List.mem_reverse.mp hc)
  rw [trimOf_eq, trimOf_eq, List.dropWhile_append]
  split
  · rename_i hs
    rw [hpost, List.isEmpty_iff.mp hs]
  · rw [List.rdropWhile, List.reverse_append, List.dropWhile_append_of_pos hreverse]
    rfl

/-- What is taken away stands at the ends. -/
theorem exists_trimOf (p : Char → Bool) (s : List Char) : ∃ pre post,
    s = pre ++ trimOf p s ++ post ∧ (∀ c ∈ pre, p c = true) ∧ ∀ c ∈ post, p c = true := by
  refine ⟨s.takeWhile p, (s.dropWhile p).rtakeWhile p, ?_, fun c => List.mem_takeWhile_imp,
    fun c => List.mem_rtakeWhile_imp⟩
  rw [List.append_assoc, trimOf_eq, List.rdropWhile_append_rtakeWhile,
    List.takeWhile_append_dropWhile]

theorem head?_trimOf : ∀ c ∈ (trimOf p s).head?, p c = false := by
  intro c hc
  obtain ⟨rest, hrest⟩ : trimOf p s <+: s.dropWhile p := List.rdropWhile_prefix p _
  have hhead := List.head?_dropWhile_not p s
  rw [← hrest, List.head?_append, Option.mem_def.mp hc] at hhead
  exact hhead

theorem getLast?_trimOf : ∀ c ∈ (trimOf p s).getLast?, p c = false := by
  intro c hc
  obtain ⟨hne, hlast⟩ := List.mem_getLast?_eq_getLast hc
  rw [hlast]
  exact Bool.eq_false_iff.mpr (List.rdropWhile_last_not p _ hne)

theorem trimOf_of_ends (hhead : ∀ c ∈ s.head?, p c = false) (hlast : ∀ c ∈ s.getLast?, p c = false) :
    trimOf p s = s := by
  have hfront : s.dropWhile p = s := by
    cases s with
    | nil => rfl
    | cons c s => exact List.dropWhile_cons_of_neg (by rw [hhead c rfl]; exact Bool.false_ne_true)
  rw [trimOf_eq, hfront]
  exact List.rdropWhile_eq_self_iff.mpr fun hne =>
    Bool.eq_false_iff.mp (hlast _ (List.getLast?_eq_some_getLast hne))

theorem trimOf_trimOf (p : Char → Bool) (s : List Char) : trimOf p (trimOf p s) = trimOf p s :=
  trimOf_of_ends head?_trimOf getLast?_trimOf

theorem trimOf_of_forall (h : ∀ c ∈ s, p c = false) : trimOf p s = s :=
  trimOf_of_ends (fun c hc => h c (List.mem_of_mem_head? hc))
    fun c hc => h c (List.mem_of_mem_getLast? hc)

/-- What stands before a text without blanks at its own ends stays when both are trimmed together, and so does
all that trimming the text alone would leave. -/
theorem exists_trimOf_append {w : List Char} (hw : w ≠ []) (hhead : ∀ c ∈ w.head?, p c = false)
    (hlast : ∀ c ∈ w.getLast?, p c = false) (s : List Char) :
    ∃ v, trimOf p (w ++ s) = w ++ v ∧ trimOf p v = trimOf p s := by
  obtain ⟨pre, post, hs, hpre, hpost⟩ := exists_trimOf p s
  by_cases hnil : trimOf p s = []
  · have hblank : ∀ c ∈ s, p c = true := by
      rw [hs, hnil, List.append_nil, List.forall_mem_append]
      exact ⟨hpre, hpost⟩
    refine ⟨[], ?_, hnil.symm⟩
    rw [trimOf_append_right hblank, trimOf_of_ends hhead hlast, List.append_nil]
  · refine ⟨pre ++ trimOf p s, ?_, ?_⟩
    · conv_lhs => rw [hs, ← List.append_assoc]
      rw [trimOf_append_right hpost]
      apply trimOf_of_ends
      · rw [List.head?_append_of_ne_nil _ hw]
        exact hhead
      · rw [← List.append_assoc, List.getLast?_append_of_ne_nil _ hnil]
        exact getLast?_trimOf
    · rw [trimOf_append_left hpre, trimOf_trimOf]

end Ends

section Pieces

variable {sep : Char} {p : Char → Bool} {s pre post : List Char}

theorem pieces_append_left (h : sep ∉ pre) :
    pieces sep (pre ++ s) = (pieces sep s).modifyHead (pre ++ ·) := by
  induction pre with
  | nil => cases hs : pieces sep s <;> simp [hs]
  | cons c pre ih =>
    have hc := List.ne_of_not_mem_cons h
    rw [List.cons_append, pieces, if_neg hc.symm, ih (List.not_mem_of_not_mem_cons h),
      List.modifyHead_modifyHead]
    rfl

theorem pieces_append_right (h : sep ∉ post) : ∃ ps last, pieces sep s = ps ++ [last] ∧
    pieces sep (s ++ post) = ps ++ [last ++ post] := by
  induction s with
  | nil => exact ⟨[], [], rfl, pieces_of_not_mem h⟩
  | cons c s ih =>
    obtain ⟨ps, last, hs, hpost⟩ := ih
    rw [List.cons_append, pieces, pieces, hs, hpost]
    split
    · exact ⟨[] :: ps, last, rfl, rfl⟩
    · cases ps with
      | nil => exact ⟨[], c :: last, rfl, rfl⟩
      | cons q ps => exact ⟨(c :: q) :: ps, last, rfl, rfl⟩

/-- Trimming a text first makes no difference to its trimmed pieces. -/
theorem map_trimOf_pieces (hsep : p sep = false) (s : List Char) :
    (pieces sep (trimOf p s)).map (trimOf p) = (pieces sep s).map (trimOf p) := by
  obtain ⟨pre, post, hs, hpre, hpost⟩ := exists_trimOf p s
  have hnot : ∀ t : List Char, (∀ c ∈ t, p c = true) → sep ∉ t := by
    intro t ht hmem
    rw [ht sep hmem] at hsep
    cases hsep
  have hleft : (pieces sep (pre ++ trimOf p s)).map (trimOf p) =
      (pieces sep (trimOf p s)).map (trimOf p) := by
    rw [pieces_append_left (hnot pre hpre)]
    cases pieces sep (trimOf p s) with
    | nil => rfl
    | cons q ps => rw [List.modifyHead_cons, List.map_cons, List.map_cons, trimOf_append_left hpre]
  obtain ⟨ps, last, hlast, hright⟩ := pieces_append_right (s := pre ++ trimOf p s) (hnot post hpost)
  rw [← hs] at hright
  rw [← hleft, hlast, hright, List.map_append, List.map_append, List.map_singleton,
    List.map_singleton, trimOf_append_right hpost]

end Pieces

namespace Numeral

/-- Of the blanks, only white space can be left out around a numeral. -/
theorem isSpace_of_isBlank {c : Char} (h : isBlank c = true)
    (hc : isDigitOrBar c = true ∨ c = '-' ∨ c = '+') : isSpace c = true := by
  rw [isBlank, Bool.or_eq_true] at h
  refine h.resolve_right fun hseparator => ?_
  rw [Bool.and_eq_true, decide_eq_true_iff, decide_eq_true_iff] at hseparator
  obtain ⟨hlow, hhigh⟩ := hseparator
  rw [← Char.ofNat_toNat c] at hc
  generalize c.toNat = n at hc hlow hhigh
  interval_cases n <;> revert hc <;> decide

/-- All that a numeral is written with is digits, bars and a sign. -/
theorem mem_of_read? {s : List Char} {n : Int} (h : read? s = some n) :
    ∀ c ∈ trimOf isSpace s, isDigitOrBar c = true ∨ c = '-' ∨ c = '+' := by
  have hbody : ∀ c ∈ (splitSign (trimOf isSpace s)).2, isDigitOrBar c = true := by
    simp only [read?, read] at h
    split at h
    · cases h
    · by_cases hrest : ((splitSign (trimOf isSpace s)).2.dropWhile isDigitOrBar).isEmpty = true
      · exact List.dropWhile_eq_nil_iff.mp (List.isEmpty_iff.mp hrest)
      · rw [if_neg hrest] at h
        split at h <;> cases h
  intro c hc
  generalize trimOf isSpace s = t at hc hbody
  unfold splitSign at hbody
  split at hbody
  · rcases List.mem_cons.mp hc with rfl | hc
    · exact Or.inr (Or.inl rfl)
    · exact Or.inl (hbody c hc)
  · rcases List.mem_cons.mp hc with rfl | hc
    · exact Or.inr (Or.inr rfl)
    · exact Or.inl (hbody c hc)
  · exact Or.inl (hbody c hc)

theorem read?_trim {s : List Char} {n : Int} (h : read? s = some n) : read? (trim s) = some n := by
  obtain ⟨pre, post, hs, hpre, hpost⟩ := exists_trimOf isSpace s
  have hnot : ∀ c ∈ trimOf isSpace s, isSpace c = false → isBlank c = false := by
    intro c hc hspace
    rw [Bool.eq_false_iff] at hspace ⊢
    exact fun hblank => hspace (isSpace_of_isBlank hblank (mem_of_read? h c hc))
  have htrim : trim s = trimOf isSpace s := by
    rw [trim]
    conv_lhs => rw [hs]
    rw [trimOf_append_right fun c hc => isBlank_of_isSpace (hpost c hc),
      trimOf_append_left fun c hc => isBlank_of_isSpace (hpre c hc)]
    exact trimOf_of_ends
      (fun c hc => hnot c (List.mem_of_mem_head? hc) (head?_trimOf c hc))
      (fun c hc => hnot c (List.mem_of_mem_getLast? hc) (getLast?_trimOf c hc))
  have hagain : trimOf isSpace (trim s) = trimOf isSpace s := by
    rw [htrim, trimOf_trimOf]
  rw [← h, read?, read?, read, read, hagain]

end Numeral
end AuditReport.Text
