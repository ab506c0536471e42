import AuditReport.Proofs.Text.Trimmed
import Mathlib.Data.List.Induction
import Mathlib.Data.List.TakeWhile
import Mathlib.Data.Nat.Digits.Defs
import Mathlib.Tactic.IntervalCases
import Mathlib.Tactic.SplitIfs

/-!
# Decimal notation

An integer is written in decimal digits, with a minus sign in front of a negative one. The notation reads
back as the integer, if it has no more digits than are allowed; no integer that is read has more.
-/
namespace AuditReport.Text

theorem toList_toString (n : Int) :
    (toString n).toList = (if n < 0 then ['-'] else []) ++ Nat.toDigits 10 n.natAbs := by
  cases n <;> simp [toString, Int.repr, Nat.repr]

/-- The digits of a number, from the highest on. -/
theorem exists_toDigits (n : Nat) : ∃ ds : List Nat, Nat.toDigits 10 n = ds.map Nat.digitChar ∧
    (∀ d ∈ ds, d < 10) ∧ ds ≠ [] ∧ Numeral.value ds = n := by
  induction n using Nat.strong_induction_on with
  | _ n ih =>
    rw [Nat.toDigits_eq_if (by decide)]
    split
    · rename_i hn
      exact ⟨[n], rfl, List.forall_mem_singleton.mpr hn, List.cons_ne_nil _ _, by simp [Numeral.value]⟩
    · rename_i hn
      obtain ⟨ds, hds, hlt, hne, hvalue⟩ := ih (n / 10) (by omega)
      refine ⟨ds ++ [n % 10], ?_, ?_, ?_, ?_⟩
      · rw [hds, List.map_append, List.map_singleton]
      · rw [List.forall_mem_append]
        exact ⟨hlt, List.forall_mem_singleton.mpr (Nat.mod_lt n (by decide))⟩
      · exact List.append_ne_nil_of_left_ne_nil hne _
      · rw [Numeral.value] at hvalue ⊢
        rw [List.foldl_append, hvalue, List.foldl_cons, List.foldl_nil]
        omega

theorem toDigits_ne_nil (n : Nat) : Nat.toDigits 10 n ≠ [] := by
  obtain ⟨ds, hds, _, hne, _⟩ := exists_toDigits n
  rw [hds]
  exact mt List.map_eq_nil_iff.mp hne

theorem isDigit_of_mem_toDigits (n : Nat) : ∀ c ∈ Nat.toDigits 10 n, c.isDigit = true := by
  obtain ⟨ds, hds, hlt, _⟩ := exists_toDigits n
  rw [hds]
  refine List.forall_mem_map.mpr fun d hd => ?_
  have hd := hlt d hd
  interval_cases d <;> rfl

theorem value_toDigits (n : Nat) :
    Numeral.value ((Nat.toDigits 10 n).map fun c => c.toNat - 48) = n := by
  obtain ⟨ds, hds, hlt, _, hvalue⟩ := exists_toDigits n
  have hdigits : ds.map ((fun c => c.toNat - 48) ∘ Nat.digitChar) = ds.map id := by
    refine List.map_congr_left fun d hd => ?_
    have hd := hlt d hd
    interval_cases d <;> rfl
  rw [hds, List.map_map, hdigits, List.map_id, hvalue]

/-- Only zero is written with a zero in front. -/
theorem head?_toDigits_ne_zero {n : Nat} (h : 0 < n) : (Nat.toDigits 10 n).head? ≠ some '0' := by
  induction n using Nat.strong_induction_on with
  | _ n ih =>
    rw [Nat.toDigits_eq_if (by decide)]
    split
    · rename_i hn
      interval_cases n <;> decide
    · rw [List.head?_append_of_ne_nil _ (toDigits_ne_nil _)]
      exact ih (n / 10) (by omega) (by omega)

/-- What holds of the minus sign and of all digits holds of all characters of a decimal notation. -/
theorem forall_mem_toString {P : Char → Prop} (hminus : P '-')
    (hdigits : ∀ d < 10, P (Nat.digitChar d)) {n : Int} : ∀ c ∈ (toString n).toList, P c := by
  obtain ⟨ds, hds, hlt, _⟩ := exists_toDigits n.natAbs
  rw [toList_toString, hds, List.forall_mem_append]
  constructor
  · split
    · exact List.forall_mem_singleton.mpr hminus
    · exact List.forall_mem_nil _
  · exact List.forall_mem_map.mpr fun d hd => hdigits d (hlt d hd)

namespace Numeral

theorem digitValue?_digitChar {d : Nat} (h : d < 10) : digitValue? (Nat.digitChar d) = some d := by
  interval_cases d <;> rfl

theorem digits?_digitChars {ds : List Nat} (hne : ds ≠ []) (h : ∀ d ∈ ds, d < 10) :
    digits? (ds.map Nat.digitChar) = some ds := by
  induction ds with
  | nil => contradiction
  | cons d ds ih =>
    obtain ⟨hd, hds⟩ := List.forall_mem_cons.mp h
    cases ds with
    | nil => rw [List.map_singleton, digits?, digitValue?_digitChar hd, Option.map_some]
    | cons e ds =>
      have hbar : Nat.digitChar e ≠ '_' := by
        have he := hds e List.mem_cons_self
        interval_cases e <;> decide
      have hrest : digits? (Nat.digitChar e :: ds.map Nat.digitChar) = some (e :: ds) :=
        ih (List.cons_ne_nil e ds) hds
      rw [List.map_cons, List.map_cons, digits?, digitValue?_digitChar hd, hrest]
      · rfl
      · exact List.cons_ne_nil _ _
      · exact fun _ h => hbar (List.cons.inj h).1

theorem isDigitOrBar_digitChar {d : Nat} (h : d < 10) : isDigitOrBar (Nat.digitChar d) = true := by
  rw [isDigitOrBar, digitValue?_digitChar h]
  rfl

theorem splitSign_digitChar {d : Nat} (h : d < 10) (s : List Char) :
    splitSign (Nat.digitChar d :: s) = (false, Nat.digitChar d :: s) := by
  interval_cases d <;> rfl

/-- A decimal notation reads back as its integer. -/
theorem read?_toString {n : Int} (h : (Nat.toDigits 10 n.natAbs).length ≤ maxDigits) :
    read? (toString n).toList = some n := by
  obtain ⟨ds, hds, hlt, hne, hvalue⟩ := exists_toDigits n.natAbs
  have htrim : trimOf isSpace (toString n).toList = (toString n).toList :=
    trimOf_of_forall (forall_mem_toString (by decide) fun d hd => by interval_cases d <;> decide)
  have hsplit : splitSign (toString n).toList = (decide (n < 0), ds.map Nat.digitChar) := by
    rw [toList_toString, hds]
    by_cases hn : n < 0
    · rw [if_pos hn, decide_eq_true hn]
      rfl
    · obtain ⟨d, r, rfl⟩ := List.exists_cons_of_ne_nil hne
      rw [if_neg hn, decide_eq_false hn]
      exact splitSign_digitChar (hlt d List.mem_cons_self) _
  have hrun : ∀ c ∈ ds.map Nat.digitChar, isDigitOrBar c = true :=
    List.forall_mem_map.mpr fun d hd => isDigitOrBar_digitChar (hlt d hd)
  have hsign : (if decide (n < 0) then -(value ds : Int) else value ds) = n := by
    rw [hvalue]
    by_cases hn : n < 0
    · rw [if_pos (decide_eq_true hn)]
      omega
    · rw [if_neg (mt of_decide_eq_true hn)]
      omega
  rw [hds, List.length_map] at h
  rw [read?, read, htrim, hsplit]
  dsimp only
  rw [List.takeWhile_eq_self_iff.mpr hrun, List.dropWhile_eq_nil_iff.mpr hrun,
    digits?_digitChars hne hlt]
  dsimp only
  rw [if_neg (Nat.not_lt.mpr h), hsign]
  rfl

theorem digits?_lt {s : List Char} {ds : List Nat} (h : digits? s = some ds) : ∀ d ∈ ds, d < 10 := by
  fun_induction digits? s generalizing ds with
  | case1 => cases h
  | case2 c =>
    obtain ⟨d, hd, rfl⟩ := Option.map_eq_some_iff.mp h
    exact List.forall_mem_singleton.mpr (digitValue?_lt hd)
  | case3 c r ih =>
    obtain ⟨d, hd, h⟩ := Option.bind_eq_some_iff.mp h
    obtain ⟨rest, hrest, rfl⟩ := Option.map_eq_some_iff.mp h
    exact List.forall_mem_cons.mpr ⟨digitValue?_lt hd, ih hrest⟩
  | case4 c r _ _ ih =>
    obtain ⟨d, hd, h⟩ := Option.bind_eq_some_iff.mp h
    obtain ⟨rest, hrest, rfl⟩ := Option.map_eq_some_iff.mp h
    exact List.forall_mem_cons.mpr ⟨digitValue?_lt hd, ih hrest⟩

theorem value_lt_pow {ds : List Nat} (h : ∀ d ∈ ds, d < 10) : value ds < 10 ^ ds.length := by
  induction ds using List.reverseRecOn with
  | nil => decide
  | append_singleton ds d ih =>
    obtain ⟨hds, hd⟩ := List.forall_mem_append.mp h
    have hlt := ih hds
    have hd := List.forall_mem_singleton.mp hd
    have hvalue : value (ds ++ [d]) = 10 * value ds + d := by
      rw [value, List.foldl_append, ← value]
      rfl
    rw [hvalue, List.length_append, List.length_singleton, Nat.pow_succ]
    omega

/-- Leading zeros count towards the limit, so without them there are no more digits. -/
theorem length_toDigits_of_read? {s : List Char} {n : Int} (h : read? s = some n) :
    (Nat.toDigits 10 n.natAbs).length ≤ maxDigits := by
  unfold read? read at h
  dsimp only at h
  cases hds : digits? ((splitSign (trimOf isSpace s)).2.takeWhile isDigitOrBar) with
  | none =>
    rw [hds] at h
    cases h
  | some ds =>
    rw [hds] at h
    dsimp only at h
    have hdigits : ds.length ≤ maxDigits ∧ n.natAbs = value ds := by
      split_ifs at h with hlong
      · cases h
      · cases h
        exact ⟨Nat.le_of_not_lt hlong, Int.natAbs_neg _⟩
      · cases h
        exact ⟨Nat.le_of_not_lt hlong, rfl⟩
      · cases h
    have hpow : 10 ^ ds.length ≤ 10 ^ maxDigits := Nat.pow_le_pow_right (by decide) hdigits.1
    have hlt : n.natAbs < 10 ^ maxDigits := by
      rw [hdigits.2]
      exact Nat.lt_of_lt_of_le (value_lt_pow (digits?_lt hds)) hpow
    exact Nat.toDigits_length 10 _ maxDigits (by decide) hlt

end Numeral
end AuditReport.Text
