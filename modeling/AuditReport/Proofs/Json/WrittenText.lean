import AuditReport.Json.Printer
import AuditReport.Json.Reader
import Mathlib.Tactic.SplitIfs

/-!
# Texts that are written and read

A text is written character by character and read code unit by code unit. A character has one unit or a pair
of surrogates, and no character is a surrogate by itself, so its units tell a text.
-/
namespace AuditReport.Json

def unitsOf (c : Char) : List Nat :=
  if c.toNat < 0x10000 then [c.toNat]
  else [0xD800 + (c.toNat - 0x10000) / 0x400, 0xDC00 + (c.toNat - 0x10000) % 0x400]

theorem hexValue?_digitChar : ∀ d < 16, hexValue? (Nat.digitChar d) = some d := by
  decide

theorem readUnits_unitEscape {n : Nat} (h : n < 0x10000) (r : List Char) :
    readUnits (unitEscape n ++ r) = Scan.cons n (readUnits r) := by
  have hunit : unit? (Nat.digitChar (n / 4096 % 16)) (Nat.digitChar (n / 256 % 16))
      (Nat.digitChar (n / 16 % 16)) (Nat.digitChar (n / 1 % 16)) = some n := by
    have hdigit : ∀ m, hexValue? (Nat.digitChar (m % 16)) = some (m % 16) :=
      fun m => hexValue?_digitChar _ (Nat.mod_lt m (by decide))
    simp only [unit?, hdigit, Option.bind_eq_bind, Option.bind_some]
    congr 1
    omega
  have hdigits : unitEscape n ++ r = '\\' :: 'u' :: Nat.digitChar (n / 4096 % 16) ::
      Nat.digitChar (n / 256 % 16) :: Nat.digitChar (n / 16 % 16) :: Nat.digitChar (n / 1 % 16) :: r := rfl
  rw [hdigits, readUnits, hunit]

theorem readUnits_writeChar (c : Char) {r rest : List Char} {ns : List Nat}
    (h : readUnits r = .ok (ns, rest)) :
    readUnits (writeChar c ++ r) = .ok (unitsOf c ++ ns, rest) := by
  have hvalid : c.toNat.isValidChar := c.valid
  have hshort : ∀ {d x : Char}, d ≠ 'u' → shortEscape? d = some x → x.toNat < 0x10000 →
      readUnits (['\\', d] ++ r) = .ok (unitsOf x ++ ns, rest) := by
    intro d x hd hx hlt
    rw [unitsOf, if_pos hlt]
    change readUnits ('\\' :: d :: r) = _
    rw [readUnits, hx, h]
    · rfl
    · exact fun _ _ _ _ _ h _ => hd h
  unfold writeChar
  split_ifs with h1 h2 h3 h4 h5 h6 h7 h8 h9
  · subst h1
    exact hshort (by decide) rfl (by decide)
  · subst h2
    exact hshort (by decide) rfl (by decide)
  · subst h3
    exact hshort (by decide) rfl (by decide)
  · subst h4
    exact hshort (by decide) rfl (by decide)
  · subst h5
    exact hshort (by decide) rfl (by decide)
  · obtain rfl : c = Char.ofNat 12 := Char.toNat_inj.mp h6
    exact hshort (by decide) rfl (by decide)
  · obtain rfl : c = Char.ofNat 8 := Char.toNat_inj.mp h7
    exact hshort (by decide) rfl (by decide)
  · rw [unitsOf, if_pos (by omega), List.singleton_append, readUnits, if_neg (by omega), h]
    · rfl
    · exact h1
    · exact fun _ _ _ _ _ h _ => h2 h
    · exact fun _ _ h _ => h2 h
  · rw [unitsOf, if_pos h9, readUnits_unitEscape h9, h]
    rfl
  · rw [unitsOf, if_neg h9, List.append_assoc, readUnits_unitEscape (by omega),
      readUnits_unitEscape (by omega), h]
    rfl

/-- What is written of a text is read up to the quote at its end. -/
theorem readUnits_flatMap_writeChar (cs r : List Char) :
    readUnits (cs.flatMap writeChar ++ '"' :: r) = .ok (cs.flatMap unitsOf, r) := by
  induction cs with
  | nil => rfl
  | cons c cs ih =>
    rw [List.flatMap_cons, List.flatMap_cons, List.append_assoc]
    exact readUnits_writeChar c ih

theorem ofUnits_cons {n : Nat} (h : isHighSurrogate n = false) (ns : List Nat) :
    ofUnits (n :: ns) = ofUnit n :: ofUnits ns := by
  cases ns with
  | nil => rfl
  | cons m ns => rw [ofUnits, h, Bool.false_and, if_neg Bool.false_ne_true]

theorem isSurrogate_toNat (c : Char) : isSurrogate c.toNat = false := by
  have hvalid : c.toNat.isValidChar := c.valid
  simp only [isSurrogate, isHighSurrogate, isLowSurrogate, Bool.or_eq_false_iff, Bool.and_eq_false_iff,
    decide_eq_false_iff_not]
  omega

theorem ofUnits_unitsOf_append (c : Char) (ns : List Nat) :
    ofUnits (unitsOf c ++ ns) = c :: ofUnits ns := by
  rw [unitsOf]
  split_ifs with h
  · have hhigh : isHighSurrogate c.toNat = false := (Bool.or_eq_false_iff.mp (isSurrogate_toNat c)).1
    rw [List.singleton_append, ofUnits_cons hhigh, ofUnit, isSurrogate_toNat,
      if_neg Bool.false_ne_true, Char.ofNat_toNat]
  · have hvalid : c.toNat.isValidChar := c.valid
    have hpair : (isHighSurrogate (0xD800 + (c.toNat - 0x10000) / 0x400) &&
        isLowSurrogate (0xDC00 + (c.toNat - 0x10000) % 0x400)) = true := by
      simp only [isHighSurrogate, isLowSurrogate, Bool.and_eq_true, decide_eq_true_iff]
      omega
    have hsum : 0x10000 + (0xD800 + (c.toNat - 0x10000) / 0x400 - 0xD800) * 0x400 +
        (0xDC00 + (c.toNat - 0x10000) % 0x400 - 0xDC00) = c.toNat := by
      omega
    rw [List.cons_append, List.singleton_append, ofUnits, if_pos hpair, ofPair, hsum,
      Char.ofNat_toNat]

theorem ofUnits_flatMap_unitsOf (cs : List Char) : ofUnits (cs.flatMap unitsOf) = cs := by
  induction cs with
  | nil => rfl
  | cons c cs ih => rw [List.flatMap_cons, ofUnits_unitsOf_append, ih]

/-- A text that is written reads back as it is. The quote before it has been read. -/
theorem readText_written (cs r : List Char) :
    readText (cs.flatMap writeChar ++ '"' :: r) = .ok (cs, r) := by
  rw [readText, readUnits_flatMap_writeChar]
  exact congrArg (fun cs => Except.ok (cs, r)) (ofUnits_flatMap_unitsOf cs)

end AuditReport.Json
