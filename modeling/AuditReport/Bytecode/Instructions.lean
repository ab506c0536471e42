import AuditReport.Bytecode.Hex

/-!
# Instructions of a bytecode

The opcodes `0x60` to `0x7f` carry 1 to 32 operand bytes. An instruction is known by its boundary,
the offset of its last byte, where a cut-off operand counts in full; offsets inside an operand
belong to no instruction.
-/
namespace AuditReport.Bytecode

/-- The number of operand bytes that follow an opcode. -/
def operandSize (opcode : Int) : Int :=
  if 0x60 ≤ opcode ∧ opcode ≤ 0x7F then opcode - 0x5F else 0

/-- The boundaries of the instructions of `code`, which starts at `offset` with `skip` bytes of an
operand. -/
def boundariesFrom (offset : Nat) : List UInt8 → (skip : Nat) → List Nat
  | [], _ => []
  | _ :: code, skip + 1 => boundariesFrom (offset + 1) code skip
  | op :: code, 0 =>
    let size := (operandSize op.toNat).toNat
    (offset + size) :: boundariesFrom (offset + 1) code size

/-- The boundaries of all instructions, in order: the one at position `i` ends instruction `i`. -/
structure InstructionTable where
  boundaries : List Nat
  deriving DecidableEq, Repr, Inhabited

namespace InstructionTable

def ofBytes (code : List UInt8) : InstructionTable :=
  ⟨boundariesFrom 0 code 0⟩

def ofHex (field hex : String) : Except Fault InstructionTable := do
  return ofBytes (← decode field hex)

def size (t : InstructionTable) : Nat :=
  t.boundaries.length

def find? (t : InstructionTable) (offset : Int) : Option Nat :=
  t.boundaries.findIdx? fun (b : Nat) => (b : Int) == offset

def entries (t : InstructionTable) : List (Nat × Nat) :=
  t.boundaries.zipIdx

def summary (t : InstructionTable) : String :=
  s!"InstructionIndex(instructions={t.size})"

end InstructionTable
end AuditReport.Bytecode
