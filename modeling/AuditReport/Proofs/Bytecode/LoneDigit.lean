import AuditReport.Bytecode.Instructions
import Mathlib.Data.List.TakeWhile

/-!
# A digit alone before a line feed

The check of a bytecode text lets one line feed stand after the digits and counts it. So an odd number
of digits passes with it, though the last digit has no partner; every other flaw is told.
-/
namespace AuditReport.Bytecode

theorem pairs?_isSome_iff {s : List Char} :
    (pairs? s).isSome = true ↔ s.length % 2 = 0 ∧ ∀ c ∈ s, isHexDigit c = true := by
  fun_induction pairs? s with
  | case1 a b r ih =>
    have hlength : (a :: b :: r).length % 2 = r.length % 2 := by
      simp only [List.length_cons]
      omega
    rw [hlength, List.forall_mem_cons, List.forall_mem_cons]
    simp only [isHexDigit] at ih ⊢
    cases hexValue? a with
    | none => simp
    | some high =>
      cases hexValue? b with
      | none => simp
      | some low =>
        rw [Option.isSome_some, Option.isSome_some]
        simp only [true_and, ← ih]
        cases pairs? r <;> simp
  | case2 => simp
  | case3 c => simp

/-- After the tag comes an odd number of digits and a line feed. -/
def EndsAlone (hex : String) : Prop :=
  ∃ digits, dropTag hex.toList = digits ++ ['\n'] ∧ (∀ c ∈ digits, isHexDigit c = true) ∧
    digits.length % 2 = 1

theorem endsWell_iff {s : List Char} : endsWell s = true ↔
    ∃ digits, (∀ c ∈ digits, isHexDigit c = true) ∧ (s = digits ∨ s = digits ++ ['\n']) := by
  have hline : isHexDigit '\n' = false := by decide
  unfold endsWell
  constructor
  · intro h
    have hdigits : ∀ c ∈ s.takeWhile isHexDigit, isHexDigit c = true :=
      fun _ => List.mem_takeWhile_imp
    have hsplit := List.takeWhile_append_dropWhile (p := isHexDigit) (l := s)
    refine ⟨s.takeWhile isHexDigit, hdigits, ?_⟩
    split at h
    · rename_i hrest
      rw [hrest, List.append_nil] at hsplit
      exact Or.inl hsplit.symm
    · rename_i hrest
      rw [hrest] at hsplit
      exact Or.inr hsplit.symm
    · cases h
  · rintro ⟨digits, hdigits, rfl | rfl⟩
    · have hrest : s.dropWhile isHexDigit = [] := List.dropWhile_eq_nil_iff.mpr hdigits
      rw [hrest]
    · have hrest : (digits ++ ['\n']).dropWhile isHexDigit = ['\n'] := by
        rw [List.dropWhile_append_of_pos hdigits, List.dropWhile_cons_of_neg (by simp [hline])]
      rw [hrest]
      rfl

/-- The faults of a bytecode text are flaws that are told, or it ends in a digit alone. -/
theorem decode_eq_error {field hex : String} {e : Fault} (h : decode field hex = .error e) :
    (∃ flaw, e = .bytecode field flaw) ∨ e = .defect .danglingDigit ∧ EndsAlone hex := by
  simp only [decode] at h
  split_ifs at h with hends hodd
  · cases h
    exact Or.inl ⟨_, rfl⟩
  · cases h
    exact Or.inl ⟨_, rfl⟩
  · right
    cases hpairs : pairs? (dropTag hex.toList) with
    | some bytes =>
      rw [hpairs] at h
      cases h
    | none =>
      rw [hpairs] at h
      cases h
      refine ⟨rfl, ?_⟩
      obtain ⟨digits, hdigits, hs | hs⟩ := endsWell_iff.mp (by simpa using hends)
      · have hsome : (pairs? (dropTag hex.toList)).isSome = true := by
          rw [pairs?_isSome_iff, hs]
          rw [hs] at hodd
          exact ⟨by omega, hdigits⟩
        rw [hpairs] at hsome
        cases hsome
      · refine ⟨digits, hs, hdigits, ?_⟩
        rw [hs, List.length_append, List.length_singleton] at hodd
        omega

theorem decode_of_endsAlone (field : String) {hex : String} (h : EndsAlone hex) :
    decode field hex = .error (.defect .danglingDigit) := by
  obtain ⟨digits, hs, hdigits, hodd⟩ := h
  have hends : endsWell (dropTag hex.toList) = true := endsWell_iff.mpr ⟨digits, hdigits, Or.inr hs⟩
  have heven : ¬ (dropTag hex.toList).length % 2 = 1 := by
    rw [hs, List.length_append, List.length_singleton]
    omega
  have hpairs : pairs? (dropTag hex.toList) = none := by
    apply Option.not_isSome_iff_eq_none.mp
    rw [pairs?_isSome_iff, hs]
    rintro ⟨_, hall⟩
    have hline := hall '\n' (by simp)
    exact absurd hline (by decide)
  simp only [decode, hends, hpairs, Bool.not_true, Bool.false_eq_true, if_false, if_neg heven]

theorem ofHex_of_endsAlone (field : String) {hex : String} (h : EndsAlone hex) :
    InstructionTable.ofHex field hex = .error (.defect .danglingDigit) := by
  rw [InstructionTable.ofHex, decode_of_endsAlone field h]
  rfl

end AuditReport.Bytecode
