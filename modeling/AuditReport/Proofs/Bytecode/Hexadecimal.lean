import AuditReport.Proofs.Contract.JobFaults

/-!
# Hexadecimal texts

Bytecode is read from an even number of hexadecimal digits with at most one tag in front, and writing
the bytes gives the digits back in lower case. All other texts are told to be invalid, but for those
that end in a digit alone before a line feed.
-/
namespace AuditReport.Bytecode

def hexAlphabet : List Char :=
  "0123456789abcdefABCDEF".toList

/-- The text is that of pairs of digits, with at most one `0x` or `0X` in front. -/
def WritesHexadecimal (hex : String) (digits : List Char) : Prop :=
  (hex.toList = digits ∨ hex.toList = '0' :: 'x' :: digits ∨ hex.toList = '0' :: 'X' :: digits) ∧
    digits.length % 2 = 0 ∧ ∀ c ∈ digits, c ∈ hexAlphabet

structure ReadsHexadecimal (field hex : String) : Prop where
  /-- The bytes are those that the digits denote, in either case of the letters. -/
  read : ∀ digits, WritesHexadecimal hex digits →
    ∃ bytes, decode field hex = .ok bytes ∧ encode bytes = digits.map Char.toLower
  refused : (¬ ∃ digits, WritesHexadecimal hex digits) →
    ∃ flaw, decode field hex = .error (.bytecode field flaw)
  instructions_told : FaultsIn Fault.Told (InstructionTable.ofHex field hex)
  view_told : ∀ a : Artifact, a.deployedBytecode = hex → FaultsIn Fault.Told (ContractView.ofArtifact a)

section Digits

variable {c : Char} {d : Nat}

theorem hexValue?_of_mem (h : c ∈ hexAlphabet) :
    (hexValue? c).any (fun d => decide (d < 16) && Nat.digitChar d == c.toLower) = true := by
  have hall : hexAlphabet.all (fun c => (hexValue? c).any fun d =>
      decide (d < 16) && Nat.digitChar d == c.toLower) = true := by decide
  exact List.all_eq_true.mp hall c h

theorem mem_hexAlphabet_of_bounds {low high : Char} (hlow : low ≤ c) (hhigh : c ≤ high)
    (h : ∀ n < high.toNat + 1, low.toNat ≤ n → Char.ofNat n ∈ hexAlphabet) : c ∈ hexAlphabet := by
  rw [← Char.ofNat_toNat c]
  exact h _ (Nat.lt_succ_of_le (UInt32.le_iff_toNat_le.mp hhigh)) (UInt32.le_iff_toNat_le.mp hlow)

theorem isHexDigit_iff : isHexDigit c = true ↔ c ∈ hexAlphabet := by
  constructor
  · intro h
    unfold isHexDigit hexValue? at h
    split_ifs at h with hdigit hlower hupper
    · exact mem_hexAlphabet_of_bounds hdigit.1 hdigit.2 (by decide)
    · exact mem_hexAlphabet_of_bounds hlower.1 hlower.2 (by decide)
    · exact mem_hexAlphabet_of_bounds hupper.1 hupper.2 (by decide)
    · cases h
  · intro h
    obtain ⟨d, hd, _⟩ := (Option.any_eq_true _ _).mp (hexValue?_of_mem h)
    rw [isHexDigit, hd]
    rfl

/-- The digit of a value is the one that has it, in lower case. -/
theorem digitChar_of_hexValue? (h : hexValue? c = some d) : d < 16 ∧ Nat.digitChar d = c.toLower := by
  have hdigit : isHexDigit c = true := by
    rw [isHexDigit, h]
    rfl
  have hvalue := hexValue?_of_mem (isHexDigit_iff.mp hdigit)
  rw [h, Option.any_some, Bool.and_eq_true, decide_eq_true_eq, beq_iff_eq] at hvalue
  exact hvalue

end Digits

theorem hexDigits_pair {high low : Nat} (hhigh : high < 16) (hlow : low < 16) :
    Text.hexDigits 2 (UInt8.ofNat (16 * high + low)).toNat =
      [Nat.digitChar high, Nat.digitChar low] := by
  have hbyte : (UInt8.ofNat (16 * high + low)).toNat = 16 * high + low := by
    rw [UInt8.toNat_ofNat']
    omega
  have hfirst : (16 * high + low) / 16 % 16 = high := by omega
  have hsecond : (16 * high + low) / 1 % 16 = low := by omega
  rw [hbyte]
  change [Nat.digitChar ((16 * high + low) / 16 % 16), Nat.digitChar ((16 * high + low) / 1 % 16)] = _
  rw [hfirst, hsecond]

theorem encode_of_pairs? {digits : List Char} {bytes : List UInt8} (h : pairs? digits = some bytes) :
    encode bytes = digits.map Char.toLower := by
  fun_induction pairs? digits generalizing bytes with
  | case1 a b r ih =>
    simp only [Option.bind_eq_bind, Option.bind_eq_some_iff] at h
    obtain ⟨high, ha, low, hb, rest, hrest, h⟩ := h
    cases h
    obtain ⟨hhigh, hfirst⟩ := digitChar_of_hexValue? ha
    obtain ⟨hlow, hsecond⟩ := digitChar_of_hexValue? hb
    rw [encode, List.flatMap_cons, hexDigits_pair hhigh hlow, hfirst, hsecond, ← encode, ih hrest]
    rfl
  | case2 =>
    cases h
    rfl
  | case3 c => cases h

section Tag

variable {hex : String} {digits : List Char}

/-- Digits alone do not begin with a tag. -/
theorem dropTag_of_forall (h : ∀ c ∈ digits, c ∈ hexAlphabet) : dropTag digits = digits := by
  unfold dropTag
  split
  · exact absurd (h 'x' (by simp)) (by decide)
  · exact absurd (h 'X' (by simp)) (by decide)
  · rfl

theorem WritesHexadecimal.dropTag_eq (h : WritesHexadecimal hex digits) :
    dropTag hex.toList = digits := by
  obtain ⟨htext | htext | htext, _, hall⟩ := h
  · rw [htext]
    exact dropTag_of_forall hall
  · rw [htext]
    rfl
  · rw [htext]
    rfl

theorem eq_or_of_dropTag (s : List Char) :
    s = dropTag s ∨ s = '0' :: 'x' :: dropTag s ∨ s = '0' :: 'X' :: dropTag s := by
  unfold dropTag
  split
  · exact Or.inr (Or.inl rfl)
  · exact Or.inr (Or.inr rfl)
  · exact Or.inl rfl

/-- A text is hexadecimal if what follows its tag is made of pairs of digits. -/
theorem exists_writesHexadecimal_iff :
    (∃ digits, WritesHexadecimal hex digits) ↔ (pairs? (dropTag hex.toList)).isSome = true := by
  simp only [pairs?_isSome_iff, isHexDigit_iff]
  constructor
  · rintro ⟨digits, h⟩
    rw [h.dropTag_eq]
    exact h.2
  · exact fun h => ⟨dropTag hex.toList, eq_or_of_dropTag hex.toList, h⟩

end Tag

theorem decode_eq_ok_iff {field hex : String} {bytes : List UInt8} :
    decode field hex = .ok bytes ↔ pairs? (dropTag hex.toList) = some bytes := by
  constructor
  · intro h
    simp only [decode] at h
    split_ifs at h
    split at h
    · rename_i hpairs
      cases h
      exact hpairs
    · cases h
  · intro h
    obtain ⟨heven, hdigits⟩ := pairs?_isSome_iff.mp (Option.isSome_of_eq_some h)
    have hends : endsWell (dropTag hex.toList) = true := endsWell_iff.mpr ⟨_, hdigits, Or.inl rfl⟩
    have hodd : ¬ (dropTag hex.toList).length % 2 = 1 := by omega
    simp only [decode, hends, h, Bool.not_true, Bool.false_eq_true, if_false, if_neg hodd]

/-- Bytecode is read as it should be from all texts but those that end in a digit alone. -/
theorem readsHexadecimal_iff (field hex : String) : ReadsHexadecimal field hex ↔ ¬ EndsAlone hex := by
  constructor
  · intro h halone
    cases h.instructions_told _ (ofHex_of_endsAlone field halone)
  · intro halone
    have hfaults : ∀ e, decode field hex = .error e → ∃ flaw, e = .bytecode field flaw :=
      fun e he => (decode_eq_error he).resolve_right fun h => halone h.2
    refine ⟨?_, ?_, ?_, ?_⟩
    · intro digits hdigits
      obtain ⟨bytes, hbytes⟩ :=
        Option.isSome_iff_exists.mp (exists_writesHexadecimal_iff.mp ⟨digits, hdigits⟩)
      refine ⟨bytes, decode_eq_ok_iff.mpr hbytes, ?_⟩
      rw [encode_of_pairs? hbytes, hdigits.dropTag_eq]
    · intro hnone
      cases hdecode : decode field hex with
      | ok bytes =>
        have hpairs := Option.isSome_of_eq_some (decode_eq_ok_iff.mp hdecode)
        exact absurd (exists_writesHexadecimal_iff.mpr hpairs) hnone
      | error e =>
        obtain ⟨flaw, rfl⟩ := hfaults e hdecode
        exact ⟨flaw, rfl⟩
    · refine FaultsIn.bind ?_ fun _ _ => .ok _
      intro e he
      obtain ⟨flaw, rfl⟩ := hfaults e he
      rfl
    · rintro a rfl
      exact ContractView.ofArtifact_faultsIn (fun _ => id) fun h => absurd h halone

/-- One digit and a line feed: no text of digits, and yet not told to be invalid. -/
theorem not_forall_readsHexadecimal : ¬ ∀ field hex, ReadsHexadecimal field hex := by
  intro h
  have halone : EndsAlone "0\n" := ⟨['0'], rfl, List.forall_mem_singleton.mpr rfl, rfl⟩
  cases (h "deployedBytecode" "0\n").instructions_told _ (ofHex_of_endsAlone _ halone)

end AuditReport.Bytecode
