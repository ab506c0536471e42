import AuditReport.Bytecode.Instructions

/-!
# Disassembly

Code is read one instruction at a time: an opcode, its operands in one go, and then the next opcode.
The scan over single bytes that builds an instruction table finds the last offsets of exactly these
instructions, in order, so that an offset is found with the number of the instruction that it ends.
-/
namespace AuditReport.Bytecode

structure Instruction where
  offset : Nat
  opcode : UInt8
  deriving DecidableEq, Repr

namespace Instruction

/-- The number of operand bytes: one for the opcode `0x60` and so on up to `0x7f`. -/
def operands (i : Instruction) : Nat :=
  if 0x60 ≤ i.opcode ∧ i.opcode ≤ 0x7F then i.opcode.toNat - 0x5F else 0

/-- The offset of the last byte, as if no operand was cut off. -/
def last (i : Instruction) : Nat :=
  i.offset + i.operands

end Instruction

def disassembleFrom (offset : Nat) : List UInt8 → List Instruction
  | [] => []
  | op :: code =>
    let i : Instruction := ⟨offset, op⟩
    i :: disassembleFrom (i.last + 1) (code.drop i.operands)
termination_by code => code.length
decreasing_by
  rw [List.length_drop, List.length_cons]
  omega

def disassemble (code : List UInt8) : List Instruction :=
  disassembleFrom 0 code

@[simp] theorem disassembleFrom_nil (offset : Nat) : disassembleFrom offset [] = [] := by
  rw [disassembleFrom]

theorem disassembleFrom_cons (offset : Nat) (op : UInt8) (code : List UInt8) :
    disassembleFrom offset (op :: code) = ⟨offset, op⟩ ::
      disassembleFrom ((⟨offset, op⟩ : Instruction).last + 1)
        (code.drop (⟨offset, op⟩ : Instruction).operands) := by
  rw [disassembleFrom]

theorem toNat_operandSize (i : Instruction) : (operandSize i.opcode.toNat).toNat = i.operands := by
  unfold operandSize Instruction.operands
  have hlow : 0x60 ≤ i.opcode ↔ 0x60 ≤ i.opcode.toNat := UInt8.le_iff_toNat_le
  have hhigh : i.opcode ≤ 0x7F ↔ i.opcode.toNat ≤ 0x7F := UInt8.le_iff_toNat_le
  simp only [hlow, hhigh]
  split <;> split <;> omega

/-- Passing over operand bytes one by one is the same as dropping them at once. -/
theorem boundariesFrom_eq (offset : Nat) (code : List UInt8) (skip : Nat) :
    boundariesFrom offset code skip =
      (disassembleFrom (offset + skip) (code.drop skip)).map (·.last) := by
  induction code generalizing offset skip with
  | nil => simp [boundariesFrom]
  | cons op code ih =>
    cases skip with
    | succ skip =>
      rw [boundariesFrom, ih, List.drop_succ_cons, Nat.add_right_comm, Nat.add_assoc]
    | zero =>
      have hsize := toNat_operandSize ⟨offset, op⟩
      rw [List.drop_zero, Nat.add_zero, disassembleFrom_cons, List.map_cons, boundariesFrom, ih]
      simp only at hsize
      rw [hsize, Instruction.last, Nat.add_right_comm]

namespace InstructionTable

theorem boundaries_ofBytes (code : List UInt8) :
    (ofBytes code).boundaries = (disassemble code).map (·.last) := by
  rw [ofBytes, boundariesFrom_eq, List.drop_zero, disassemble]

end InstructionTable

theorem le_offset_of_mem {offset : Nat} {code : List UInt8} {i : Instruction}
    (h : i ∈ disassembleFrom offset code) : offset ≤ i.offset := by
  fun_induction disassembleFrom offset code with
  | case1 => cases h
  | case2 offset op code first ih =>
    rcases List.mem_cons.mp h with rfl | h
    · exact Nat.le_refl _
    · have hle := ih h
      have hlast : offset ≤ first.last := Nat.le_add_right _ _
      omega

/-- Every instruction ends before the next one starts. -/
theorem pairwise_disassembleFrom (offset : Nat) (code : List UInt8) :
    (disassembleFrom offset code).Pairwise fun i j => i.last < j.offset := by
  fun_induction disassembleFrom offset code with
  | case1 => exact List.Pairwise.nil
  | case2 offset op code first ih =>
    refine List.Pairwise.cons ?_ ih
    intro j hj
    exact le_offset_of_mem hj

theorem pairwise_last (code : List UInt8) :
    (disassemble code).Pairwise fun i j => i.last < j.last := by
  apply (pairwise_disassembleFrom 0 code).imp
  intro i j hij
  exact Nat.lt_of_lt_of_le hij (Nat.le_add_right _ _)

def EndsAt (code : List UInt8) (k : Nat) (o : Int) : Prop :=
  ∃ i, (disassemble code)[k]? = some i ∧ (i.last : Int) = o

/-- An offset is found with a number exactly if the instruction of that number ends there. -/
theorem InstructionTable.find?_ofBytes_eq_some_iff {code : List UInt8} {k : Nat} {o : Int} :
    (ofBytes code).find? o = some k ↔ EndsAt code k o := by
  rw [find?, boundaries_ofBytes, List.findIdx?_map, List.findIdx?_eq_some_iff_getElem]
  simp only [Function.comp_apply, beq_iff_eq]
  constructor
  · rintro ⟨hk, hlast, _⟩
    exact ⟨_, List.getElem?_eq_getElem hk, hlast⟩
  · rintro ⟨i, hi, rfl⟩
    obtain ⟨hk, rfl⟩ := List.getElem?_eq_some_iff.mp hi
    refine ⟨hk, rfl, ?_⟩
    intro j hj
    have hlt := List.pairwise_iff_getElem.mp (pairwise_last code) j k (by omega) hk hj
    omega

theorem InstructionTable.find?_ofBytes_eq_none_iff {code : List UInt8} {o : Int} :
    (ofBytes code).find? o = none ↔ ∀ k, ¬ EndsAt code k o := by
  rw [Option.eq_none_iff_forall_ne_some]
  simp only [ne_eq, find?_ofBytes_eq_some_iff]

end AuditReport.Bytecode
