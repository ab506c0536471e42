import AuditReport.Proofs.Bytecode.Disassembly
import Mathlib.Algebra.BigOperators.Intervals

/-!
# The index of the instructions

The first instruction starts with the code and every other one past the key of the one before; the last
one reaches the end of the code. All else that an instruction table tells about a code comes from this:
where the keys stand, which offsets have one, and what is found when more code follows.
-/
namespace AuditReport.Bytecode

def operandsAt (code : List UInt8) (o : Nat) : Nat :=
  (code[o]?).elim 0 fun op => (operandSize op.toNat).toNat

def PushAt (code : List UInt8) (o : Nat) : Prop :=
  ∃ op, code[o]? = some op ∧ 0x60 ≤ op ∧ op ≤ 0x7F

def Instruction.shift (n : Nat) (i : Instruction) : Instruction :=
  { i with offset := i.offset + n }

namespace InstructionTable

def key (t : InstructionTable) (k : Nat) : Nat :=
  t.boundaries.getD k 0

/-- The offset of the opcode of an instruction, one past the key of the instruction before. -/
def opcodeOffset (t : InstructionTable) : Nat → Nat
  | 0 => 0
  | k + 1 => t.key k + 1

/-- A table has the instructions of a code one after the other, so that every byte belongs to one. -/
structure Walks (t : InstructionTable) (code : List UInt8) : Prop where
  opcodeOffset_lt : ∀ k < t.size, t.opcodeOffset k < code.length
  key_eq : ∀ k < t.size, t.key k = t.opcodeOffset k + operandsAt code (t.opcodeOffset k)
  covers : ∀ o < code.length, ∃ k < t.size, t.opcodeOffset k ≤ o ∧ o ≤ t.key k

/-- An offset is one of a push instruction before its last operand byte. -/
def InPush (t : InstructionTable) (code : List UInt8) (o k : Nat) : Prop :=
  k < t.size ∧ PushAt code (t.opcodeOffset k) ∧ t.opcodeOffset k ≤ o ∧ o < t.key k

def entriesAfter (t : InstructionTable) (offset count : Nat) : List (Nat × Nat) :=
  t.entries.map fun e => (e.1 + offset, e.2 + count)

structure Indexes (t : InstructionTable) (code : List UInt8) : Prop where
  boundaries_eq : t.boundaries = (disassemble code).map (·.last)
  entries_eq : t.entries = (List.range t.size).map fun k => (t.key k, k)
  find?_eq_some_iff : ∀ (o : Int) (k : Nat), t.find? o = some k ↔ k < t.size ∧ t.key k = o
  key_lt : ∀ j k, j < k → k < t.size → t.key j < t.key k
  opcodeOffset_lt : ∀ k < t.size, t.opcodeOffset k < code.length
  key_eq_sum : ∀ k < t.size,
    t.key k = k + ∑ j ∈ Finset.range (k + 1), operandsAt code (t.opcodeOffset j)
  key_or_inPush : ∀ o < code.length, (∃ k < t.size, t.key k = o) ∨ ∃! k, t.InPush code o k
  not_inPush_key : ∀ k < t.size, ∀ j, ¬ t.InPush code (t.key k) j
  past_end : ∀ k < t.size, code.length ≤ t.key k →
    k + 1 = t.size ∧ PushAt code (t.opcodeOffset k) ∧ t.key k ≤ code.length + 31

end InstructionTable

section Disassembly

variable {offset : Nat} {code : List UInt8} {i j : Instruction}

theorem operandsAt_eq {op : UInt8} {o : Nat} (h : code[o]? = some op) :
    operandsAt code o = (⟨o, op⟩ : Instruction).operands := by
  rw [operandsAt, h, Option.elim_some, ← toNat_operandSize]

theorem operandsAt_le (code : List UInt8) (o : Nat) : operandsAt code o ≤ 32 := by
  rw [operandsAt]
  cases code[o]? with
  | none => exact Nat.zero_le _
  | some op =>
    rw [Option.elim_some, operandSize]
    split <;> omega

theorem pushAt_of_operandsAt_pos {o : Nat} (h : 0 < operandsAt code o) : PushAt code o := by
  cases hop : code[o]? with
  | none =>
    rw [operandsAt, hop] at h
    exact absurd h (Nat.lt_irrefl 0)
  | some op =>
    rw [operandsAt_eq hop, Instruction.operands] at h
    split at h
    · rename_i hrange
      exact ⟨op, hop, hrange⟩
    · exact absurd h (Nat.lt_irrefl 0)

theorem offset_of_head? (h : i ∈ (disassembleFrom offset code).head?) : i.offset = offset := by
  cases code with
  | nil =>
    rw [disassembleFrom_nil] at h
    cases h
  | cons op code =>
    rw [disassembleFrom_cons] at h
    cases h
    rfl

/-- Every instruction after the first starts one past the last byte of the one before. -/
theorem isChain_disassembleFrom (offset : Nat) (code : List UInt8) :
    (disassembleFrom offset code).IsChain fun i j => j.offset = i.last + 1 := by
  fun_induction disassembleFrom offset code with
  | case1 => exact List.IsChain.nil
  | case2 offset op code first ih => exact List.isChain_cons.mpr ⟨fun j => offset_of_head?, ih⟩

theorem opcode_of_mem (h : i ∈ disassembleFrom offset code) :
    ∃ n, i.offset = offset + n ∧ code[n]? = some i.opcode := by
  fun_induction disassembleFrom offset code with
  | case1 => cases h
  | case2 offset op code first ih =>
    rcases List.mem_cons.mp h with rfl | h
    · exact ⟨0, rfl, rfl⟩
    · obtain ⟨n, hoffset, hop⟩ := ih h
      rw [List.getElem?_drop] at hop
      have hlast : first.last = offset + first.operands := rfl
      exact ⟨first.operands + n + 1, by omega, hop⟩

/-- Every byte of a code belongs to an instruction. -/
theorem exists_mem_disassembleFrom {o : Nat} (hlow : offset ≤ o) (hhigh : o < offset + code.length) :
    ∃ i ∈ disassembleFrom offset code, i.offset ≤ o ∧ o ≤ i.last := by
  fun_induction disassembleFrom offset code with
  | case1 offset => exact absurd hhigh (Nat.not_lt.mpr hlow)
  | case2 offset op code first ih =>
    by_cases ho : o ≤ first.last
    · exact ⟨first, List.mem_cons_self, hlow, ho⟩
    · have hlast : first.last = offset + first.operands := rfl
      have hrest : o < first.last + 1 + (code.drop first.operands).length := by
        rw [List.length_drop]
        rw [List.length_cons] at hhigh
        omega
      obtain ⟨i, hi, hmem⟩ := ih (Nat.lt_of_not_le ho) hrest
      exact ⟨i, List.mem_cons_of_mem _ hi, hmem⟩

/-- Code that ends with an instruction is read apart from the code that follows. -/
theorem disassembleFrom_append (h : ∀ i ∈ disassembleFrom offset code, i.last < offset + code.length)
    (rest : List UInt8) :
    disassembleFrom offset (code ++ rest) =
      disassembleFrom offset code ++ disassembleFrom (offset + code.length) rest := by
  fun_induction disassembleFrom offset code with
  | case1 offset => rfl
  | case2 offset op code first ih =>
    obtain ⟨hfirst, hrest⟩ := List.forall_mem_cons.mp h
    have hlast : first.last = offset + first.operands := rfl
    rw [List.length_cons] at hfirst
    have hend : first.last + 1 + (code.drop first.operands).length = offset + (op :: code).length := by
      rw [List.length_drop, List.length_cons]
      omega
    -- No operand of the first instruction is looked for in `rest`.
    have hdrop : (code ++ rest).drop first.operands = code.drop first.operands ++ rest :=
      List.drop_append_of_le_length (by omega)
    rw [List.cons_append, disassembleFrom_cons, hdrop, ih (fun i hi => hend ▸ hrest i hi), hend,
      List.cons_append]

theorem disassembleFrom_add (offset n : Nat) (code : List UInt8) :
    disassembleFrom (offset + n) code = (disassembleFrom offset code).map (·.shift n) := by
  fun_induction disassembleFrom offset code with
  | case1 offset => exact disassembleFrom_nil _
  | case2 offset op code first ih =>
    have hlast : (⟨offset + n, op⟩ : Instruction).last + 1 = first.last + 1 + n := by
      change offset + n + first.operands + 1 = offset + first.operands + 1 + n
      omega
    rw [disassembleFrom_cons, List.map_cons, ← ih, hlast]
    rfl

end Disassembly

namespace InstructionTable

variable {t : InstructionTable} {code : List UInt8} {k : Nat}

theorem size_ofBytes (code : List UInt8) : (ofBytes code).size = (disassemble code).length := by
  rw [size, boundaries_ofBytes, List.length_map]

theorem key_ofBytes {i : Instruction} (h : (disassemble code)[k]? = some i) :
    (ofBytes code).key k = i.last := by
  rw [key, boundaries_ofBytes, List.getD_eq_getElem?_getD, List.getElem?_map, h]
  rfl

theorem opcodeOffset_ofBytes {i : Instruction} (h : (disassemble code)[k]? = some i) :
    (ofBytes code).opcodeOffset k = i.offset := by
  cases k with
  | zero =>
    rw [← List.head?_eq_getElem?] at h
    exact (offset_of_head? h).symm
  | succ k =>
    obtain ⟨hk, rfl⟩ := List.getElem?_eq_some_iff.mp h
    have hnext := List.isChain_iff_getElem.mp (isChain_disassembleFrom 0 code) k hk
    rw [opcodeOffset, key_ofBytes (List.getElem?_eq_getElem (Nat.lt_of_succ_lt hk))]
    exact hnext.symm

theorem lt_size {i : Instruction} (h : (disassemble code)[k]? = some i) : k < (ofBytes code).size := by
  rw [size_ofBytes]
  exact (List.getElem?_eq_some_iff.mp h).1

theorem getElem?_disassemble (h : k < (ofBytes code).size) : ∃ i, (disassemble code)[k]? = some i := by
  rw [size_ofBytes] at h
  exact ⟨_, List.getElem?_eq_getElem h⟩

theorem walks_ofBytes (code : List UInt8) : (ofBytes code).Walks code where
  opcodeOffset_lt k hk := by
    obtain ⟨i, hi⟩ := getElem?_disassemble hk
    obtain ⟨n, hoffset, hop⟩ := opcode_of_mem (List.mem_of_getElem? hi)
    rw [opcodeOffset_ofBytes hi, hoffset, Nat.zero_add]
    exact (List.getElem?_eq_some_iff.mp hop).1
  key_eq k hk := by
    obtain ⟨i, hi⟩ := getElem?_disassemble hk
    obtain ⟨n, hoffset, hop⟩ := opcode_of_mem (List.mem_of_getElem? hi)
    rw [Nat.zero_add] at hoffset
    rw [← hoffset] at hop
    rw [opcodeOffset_ofBytes hi, key_ofBytes hi, operandsAt_eq hop, Instruction.last]
  covers o ho := by
    obtain ⟨i, hi, hlow, hhigh⟩ := exists_mem_disassembleFrom (Nat.zero_le o) (by rwa [Nat.zero_add])
    obtain ⟨k, hk⟩ := List.mem_iff_getElem?.mp hi
    refine ⟨k, lt_size hk, ?_, ?_⟩
    · rwa [opcodeOffset_ofBytes hk]
    · rwa [key_ofBytes hk]

namespace Walks

theorem key_lt_opcodeOffset (h : t.Walks code) {j : Nat} (hjk : j < k) (hk : k ≤ t.size) :
    t.key j < t.opcodeOffset k := by
  induction k with
  | zero => exact absurd hjk (Nat.not_lt_zero j)
  | succ k ih =>
    rw [opcodeOffset]
    rcases Nat.lt_succ_iff_lt_or_eq.mp hjk with hj | rfl
    · have hprevious := ih hj (Nat.le_of_succ_le hk)
      have hkey := h.key_eq k hk
      omega
    · exact Nat.lt_succ_self _

theorem key_lt (h : t.Walks code) {j : Nat} (hjk : j < k) (hk : k < t.size) : t.key j < t.key k := by
  have hopcode := h.key_lt_opcodeOffset hjk (Nat.le_of_lt hk)
  have hkey := h.key_eq k hk
  omega

/-- No offset belongs to two instructions. -/
theorem eq_of_mem (h : t.Walks code) {j o : Nat} (hj : j < t.size) (hk : k < t.size)
    (hoj : t.opcodeOffset j ≤ o ∧ o ≤ t.key j) (hok : t.opcodeOffset k ≤ o ∧ o ≤ t.key k) : j = k := by
  rcases Nat.lt_trichotomy j k with hlt | heq | hlt
  · have := h.key_lt_opcodeOffset hlt (Nat.le_of_lt hk)
    omega
  · exact heq
  · have := h.key_lt_opcodeOffset hlt (Nat.le_of_lt hj)
    omega

theorem key_eq_sum (h : t.Walks code) (hk : k < t.size) :
    t.key k = k + ∑ j ∈ Finset.range (k + 1), operandsAt code (t.opcodeOffset j) := by
  induction k with
  | zero =>
    rw [h.key_eq 0 hk, Finset.sum_range_one, opcodeOffset]
  | succ k ih =>
    -- Each opcode itself takes one offset; all of them together are the number of the instruction.
    rw [h.key_eq (k + 1) hk, Finset.sum_range_succ, opcodeOffset, ih (Nat.lt_of_succ_lt hk)]
    omega

/-- Only the last instruction can be cut off. -/
theorem past_end (h : t.Walks code) (hk : k < t.size) (hpast : code.length ≤ t.key k) :
    k + 1 = t.size ∧ PushAt code (t.opcodeOffset k) ∧ t.key k ≤ code.length + 31 := by
  have hopcode := h.opcodeOffset_lt k hk
  have hkey := h.key_eq k hk
  have hoperands := operandsAt_le code (t.opcodeOffset k)
  refine ⟨?_, pushAt_of_operandsAt_pos (by omega), by omega⟩
  -- Another instruction would start past the end of the code.
  by_contra hlast
  have hnext := h.opcodeOffset_lt (k + 1) (by omega)
  rw [opcodeOffset] at hnext
  omega

end Walks

theorem Walks.key_or_inPush (h : t.Walks code) {o : Nat} (ho : o < code.length) :
    (∃ k < t.size, t.key k = o) ∨ ∃! k, t.InPush code o k := by
  obtain ⟨k, hk, hlow, hhigh⟩ := h.covers o ho
  rcases Nat.eq_or_lt_of_le hhigh with heq | hlt
  · exact Or.inl ⟨k, hk, heq.symm⟩
  · have hkey := h.key_eq k hk
    have hpush : PushAt code (t.opcodeOffset k) := pushAt_of_operandsAt_pos (by omega)
    refine Or.inr ⟨k, ⟨hk, hpush, hlow, hlt⟩, ?_⟩
    rintro j ⟨hj, _, hjlow, hjhigh⟩
    exact h.eq_of_mem hj hk ⟨hjlow, Nat.le_of_lt hjhigh⟩ ⟨hlow, hhigh⟩

theorem Walks.not_inPush_key (h : t.Walks code) (hk : k < t.size) (j : Nat) :
    ¬ t.InPush code (t.key k) j := by
  rintro ⟨hj, _, hlow, hhigh⟩
  have hkey := h.key_eq k hk
  have heq := h.eq_of_mem hj hk ⟨hlow, Nat.le_of_lt hhigh⟩ ⟨by omega, Nat.le_refl _⟩
  exact absurd (heq ▸ hhigh) (Nat.lt_irrefl _)

theorem getElem?_boundaries (h : k < t.size) : t.boundaries[k]? = some (t.key k) := by
  rw [key, List.getD_eq_getElem?_getD, List.getElem?_eq_getElem h]
  rfl

theorem entries_eq_map (t : InstructionTable) :
    t.entries = (List.range t.size).map fun k => (t.key k, k) := by
  apply List.ext_getElem?
  intro k
  rw [entries, List.getElem?_zipIdx, List.getElem?_map, Nat.zero_add]
  by_cases hk : k < t.size
  · rw [getElem?_boundaries hk, List.getElem?_range hk]
    rfl
  · have hrange : (List.range t.size)[k]? = none :=
      List.getElem?_eq_none (by rw [List.length_range]; exact Nat.not_lt.mp hk)
    rw [hrange, List.getElem?_eq_none (Nat.not_lt.mp hk)]
    rfl

theorem find?_ofBytes_iff_key {o : Int} :
    (ofBytes code).find? o = some k ↔ k < (ofBytes code).size ∧ (ofBytes code).key k = o := by
  rw [find?_ofBytes_eq_some_iff, EndsAt]
  constructor
  · rintro ⟨i, hi, ho⟩
    exact ⟨lt_size hi, key_ofBytes hi ▸ ho⟩
  · rintro ⟨hk, ho⟩
    obtain ⟨i, hi⟩ := getElem?_disassemble hk
    rw [key_ofBytes hi] at ho
    exact ⟨i, hi, ho⟩

/-- Every instruction ends inside a code that ends with an instruction. -/
theorem last_lt_length (h : (ofBytes code).opcodeOffset (ofBytes code).size = code.length) :
    ∀ i ∈ disassemble code, i.last < code.length := by
  intro i hi
  obtain ⟨k, hk⟩ := List.mem_iff_getElem?.mp hi
  rw [← h, ← key_ofBytes hk]
  exact (walks_ofBytes code).key_lt_opcodeOffset (lt_size hk) (Nat.le_refl _)

theorem entries_append (h : (ofBytes code).opcodeOffset (ofBytes code).size = code.length)
    (rest : List UInt8) : (ofBytes (code ++ rest)).entries =
      (ofBytes code).entries ++ (ofBytes rest).entriesAfter code.length (ofBytes code).size := by
  have hinside : ∀ i ∈ disassembleFrom 0 code, i.last < 0 + code.length := by
    rw [Nat.zero_add]
    exact last_lt_length h
  have hrest : (disassembleFrom (0 + code.length) rest).map (·.last) =
      (ofBytes rest).boundaries.map (· + code.length) := by
    rw [disassembleFrom_add, boundaries_ofBytes, List.map_map, List.map_map]
    apply List.map_congr_left
    intro i _
    exact Nat.add_right_comm i.offset code.length i.operands
  have hboundaries : (ofBytes (code ++ rest)).boundaries =
      (ofBytes code).boundaries ++ (ofBytes rest).boundaries.map (· + code.length) := by
    rw [boundaries_ofBytes, disassemble, disassembleFrom_append hinside, List.map_append, hrest,
      boundaries_ofBytes code, disassemble]
  have hnumbers : ((ofBytes rest).boundaries.map (· + code.length)).zipIdx (ofBytes code).size =
      (ofBytes rest).entriesAfter code.length (ofBytes code).size := by
    rw [List.zipIdx_map, List.zipIdx_eq_map_add, List.map_map, entriesAfter, entries]
    apply List.map_congr_left
    rintro ⟨o, j⟩ _
    exact Prod.ext rfl (Nat.add_comm _ _)
  rw [entries, hboundaries, List.zipIdx_append, Nat.zero_add, ← hnumbers]
  rfl

end InstructionTable

open InstructionTable

/-- The table of a code tells its instructions; code after a whole last instruction adds its own. -/
theorem indexes_ofBytes (code : List UInt8) : (ofBytes code).Indexes code ∧
    ∀ rest, (ofBytes code).opcodeOffset (ofBytes code).size = code.length →
      (ofBytes (code ++ rest)).entries =
        (ofBytes code).entries ++ (ofBytes rest).entriesAfter code.length (ofBytes code).size := by
  have hwalks := walks_ofBytes code
  refine ⟨?_, fun rest h => entries_append h rest⟩
  exact {
    boundaries_eq := boundaries_ofBytes code
    entries_eq := entries_eq_map _
    find?_eq_some_iff := fun o k => find?_ofBytes_iff_key
    key_lt := fun j k => hwalks.key_lt
    opcodeOffset_lt := hwalks.opcodeOffset_lt
    key_eq_sum := fun k => hwalks.key_eq_sum
    key_or_inPush := fun o => hwalks.key_or_inPush
    not_inPush_key := fun k => hwalks.not_inPush_key
    past_end := fun k => hwalks.past_end }

/-- Two whole instructions, and then a push that lacks one of its two operand bytes. -/
theorem cutOffPush_indexes :
    (ofBytes [0x60, 0x01, 0x00]).opcodeOffset 2 = 3 ∧
      (ofBytes ([0x60, 0x01, 0x00] ++ [0x61, 0xFF])).entries = [(1, 0), (2, 1), (5, 2)] ∧
      ∃! k, (ofBytes [0x60, 0x01, 0x00, 0x61, 0xFF]).InPush [0x60, 0x01, 0x00, 0x61, 0xFF] 4 k := by
  refine ⟨by decide, ?_, ?_⟩
  · exact ((indexes_ofBytes [0x60, 0x01, 0x00]).2 [0x61, 0xFF] (by decide)).trans (by decide)
  · have hnokey : ¬ ∃ k < (ofBytes [0x60, 0x01, 0x00, 0x61, 0xFF]).size,
        (ofBytes [0x60, 0x01, 0x00, 0x61, 0xFF]).key k = 4 := by decide
    exact ((indexes_ofBytes _).1.key_or_inPush 4 (by decide)).resolve_left hnokey

end AuditReport.Bytecode
