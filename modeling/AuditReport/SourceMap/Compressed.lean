import AuditReport.SourceMap.Entry

/-!
# Compressed source maps

The segments of a compressed map are separated by semicolons, one for each instruction. A field that
a segment leaves out is that of the segment before.
-/
namespace AuditReport.SourceMap

/-- Decodes segments one after the other, the first after a given entry. -/
def decodeFrom (previous : Entry) : List (List Char) → Except Fault (List Entry)
  | [] => .ok []
  | s :: segments => do
    let segment := Text.trim s
    let e ← inherit (String.ofList segment) (Text.pieces ':' segment) previous
    let es ← decodeFrom e segments
    return e :: es

/-- The entries of a compressed map, in the order of the instructions. An empty map has none. -/
def decode (compressed : String) : Except Fault (List Entry) :=
  if compressed = "" then .ok []
  else decodeFrom .initial (Text.pieces ';' compressed.toList)

def entryAt (entries : List Entry) (instruction : Int) : Except Fault Entry :=
  if instruction < 0 then .error (.sourceMap instruction entries.length)
  else
    match entries[instruction.toNat]? with
    | some e => .ok e
    | none => .error (.sourceMap instruction entries.length)

theorem entryAt_natCast (entries : List Entry) (k : Nat) :
    entryAt entries k = entries[k]?.elim (.error (.sourceMap k entries.length)) .ok := by
  have hk : ¬ (k : Int) < 0 := by omega
  rw [entryAt, if_neg hk, Int.toNat_natCast]
  cases entries[k]? <;> rfl

end AuditReport.SourceMap
