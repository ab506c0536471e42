import AuditReport.Proofs.Bytecode.Disassembly
import AuditReport.Proofs.Source.CountedLines
import AuditReport.Proofs.Syntax.SearchedTree
import AuditReport.Proofs.Text.Pieces

/-!
# Bytecode locations

The leading integer of a bytecode location is the last offset of an instruction of the disassembled
code, or the location is left unresolved. The entry with the number of that instruction names a source
by its index, and the span is counted out in the text of that source, whatever source the finding is
attributed to.
-/
namespace AuditReport

namespace SourceMap

/-- What stands before the first colon or semicolon is an integer. -/
def LeadsWith (location : String) (o : Int) : Prop :=
  ∃ field rest, location.toList = field ++ rest ∧ (∀ c ∈ field, c ≠ ':' ∧ c ≠ ';') ∧
    (∀ c ∈ rest.head?, c = ':' ∨ c = ';') ∧ Text.Numeral.read? (Text.trim field) = some o

theorem bytecodeOffset_of_leadsWith {location : String} {o : Int} (h : LeadsWith location o) :
    bytecodeOffset location = .ok o := by
  obtain ⟨field, rest, hlocation, hfield, hrest, hread⟩ := h
  have hpiece : Text.firstPiece ':' (Text.firstPiece ';' (field ++ rest)) = field := by
    rw [Text.firstPiece_append fun c hc => (hfield c hc).2,
      Text.firstPiece_append fun c hc => (hfield c hc).1]
    cases rest with
    | nil => exact List.append_nil field
    | cons c rest => rcases hrest c rfl with rfl | rfl <;> simp [Text.firstPiece]
  rw [bytecodeOffset, hlocation, hpiece, integer, hread]

end SourceMap

namespace Table

variable {α β : Type}

theorem get?_map (t : Table α) (f : String → α → β) (key : String) :
    get? (t.map fun e => (e.1, f e.1 e.2)) key = (get? t key).map (f key) := by
  induction t with
  | nil => rfl
  | cons e t ih =>
    by_cases h : e.1 = key
    · simp [get?, h]
    · simpa [get?, h] using ih

theorem exists_get? {t : Table α} {key : String} (h : key ∈ t.map (·.1)) :
    ∃ a, get? t key = some a := by
  obtain ⟨e, he, rfl⟩ := List.mem_map.mp h
  cases hfind : t.find? fun d => d.1 == e.1 with
  | none =>
    have hnone := List.find?_eq_none.mp hfind e he
    exact absurd (beq_self_eq_true e.1) hnone
  | some d => exact ⟨d.2, by rw [get?, hfind]; rfl⟩

end Table

namespace Artifact

theorem length_sourceNames (a : Artifact) : a.sourceNames.length = a.sources.length := by
  rw [sourceNames, List.length_map, List.length_mergeSort]

theorem mem_sourceNames {a : Artifact} {path : String} :
    path ∈ a.sourceNames ↔ path ∈ a.sources.map (·.1) := by
  simp only [sourceNames, List.mem_map, List.mem_mergeSort]

end Artifact

namespace Resolver

open SourceMap (LeadsWith Format)

variable {r : Resolver} {location : String} {o : Int} {name : Option String}

theorem entry_of_format {format : Option String} {kind : Format}
    (h : format.bind Format.ofName? = some kind) : r.entry location format = r.entryIn location kind := by
  rw [entry, h]

/-- A bytecode location goes to the entry with the number of the instruction that ends there. -/
theorem outcome_entry_bytecode (h : LeadsWith location o) :
    (r.entry location (some SourceMap.Format.bytecode.name)).outcome =
      match r.instructions.find? o with
      | none => .ok none
      | some k => (SourceMap.entryAt r.entries k).map some := by
  change (r.entryIn location .bytecode).outcome = _
  rw [entryIn, Noted.outcome_bind, Noted.outcome_lift, SourceMap.bytecodeOffset_of_leadsWith h]
  change (match r.instructions.find? o with
    | none => do
      Noted.leave (.offBoundary o)
      return none
    | some k => do return some (← SourceMap.entryAt r.entries k)).outcome = _
  cases r.instructions.find? o with
  | none => rfl
  | some k =>
    simp only [Noted.outcome_bind, Noted.outcome_lift]
    cases SourceMap.entryAt r.entries k <;> rfl

theorem outcome_entry_of_endsAt {code : List UInt8} (hr : r.instructions = .ofBytes code)
    (h : LeadsWith location o) {k : Nat} (hk : Bytecode.EndsAt code k o) :
    (r.entry location (some SourceMap.Format.bytecode.name)).outcome =
      match r.entries[k]? with
      | some e => .ok (some e)
      | none => .error (.sourceMap k r.entries.length) := by
  rw [outcome_entry_bytecode h, hr, Bytecode.InstructionTable.find?_ofBytes_eq_some_iff.mpr hk]
  simp only [SourceMap.entryAt_natCast]
  cases r.entries[k]? <;> rfl

theorem resolve_of_entry_none {format : Option String}
    (h : (r.entry location format).outcome = .ok none) :
    (r.resolve location format name).outcome = .ok .unresolved := by
  rw [resolve, Noted.outcome_bind, h]
  rfl

theorem resolve_of_entry_error {format : Option String} {fault : Fault}
    (h : (r.entry location format).outcome = .error fault) :
    (r.resolve location format name).outcome = .error fault := by
  rw [resolve, Noted.outcome_bind, h]
  rfl

theorem resolve_of_not_hasSource {format : Option String} {e : SourceMap.Entry}
    (h : (r.entry location format).outcome = .ok (some e)) (he : e.hasSource = false) :
    (r.resolve location format name).outcome = .ok .unresolved := by
  rw [resolve, Noted.outcome_bind, h]
  change (if e.hasSource = true then _ else (pure Span.unresolved : Noted Span)).outcome = _
  rw [if_neg (by rw [he]; exact Bool.false_ne_true)]
  rfl

theorem resolve_of_lineTable {format : Option String} {e : SourceMap.Entry} {t : LineTable}
    (h : (r.entry location format).outcome = .ok (some e)) (he : e.hasSource = true)
    (ht : (r.lineTable (r.target format e name)).outcome = .ok (some t)) :
    (r.resolve location format name).outcome = .ok (t.span e.start e.length) := by
  rw [resolve, Noted.outcome_bind, h]
  change (if e.hasSource = true then (_ : Noted Span) else _).outcome = _
  rw [if_pos he, Noted.outcome_bind, ht]
  rfl

/-- The name that an entry gives goes before the one that a finding is attributed to. -/
theorem target_of_sourceName? {format : Option String} {e : SourceMap.Entry} {path : String}
    (hformat : format.bind Format.ofName? = some .bytecode) (hsource : r.sourceName? e = some path)
    (hpath : path ≠ "") : r.target format e name = some path := by
  rw [target, if_pos hformat, hsource, Text.orElse_some_of_ne_empty hpath]

theorem target_text {format : Option String} {e : SourceMap.Entry}
    (h : format.bind Format.ofName? = some .text) :
    r.target format e name = Text.orElse name (r.sourceName? e) := by
  have hne : format.bind Format.ofName? ≠ some .bytecode := by
    rw [h]
    decide
  rw [target, if_neg hne]

theorem target_bytecode {e : SourceMap.Entry} {path : String} (hlow : 0 ≤ e.fileIndex)
    (hsource : r.sourceNames[e.fileIndex.toNat]? = some path) (hpath : path ≠ "") :
    r.target (some SourceMap.Format.bytecode.name) e name = some path := by
  apply target_of_sourceName? rfl _ hpath
  rw [sourceName?, if_neg (by omega), hsource]

theorem lineTable_of_get? {path : String} {t : LineTable}
    (h : Table.get? r.lineTables path = some t) :
    (r.lineTable (some path)).outcome = .ok (some t) := by
  have hbyName : (some path).bind (Table.byName? r.lineTables) = some t := by
    rw [Option.bind_some, Table.byName?, h]
  rw [lineTable, hbyName]
  rfl

end Resolver

/-- What a bytecode location at an offset comes to, told by the instructions of the code, the entries
of the source map and the texts of the sources. -/
structure BytecodeResolution (a : Artifact) (code : List UInt8) (entries : List SourceMap.Entry)
    (o : Int) (outcome : Except Fault Span) : Prop where
  offBoundary : (∀ k, ¬ Bytecode.EndsAt code k o) → outcome = .ok .unresolved
  unmapped : ∀ k, Bytecode.EndsAt code k o → entries.length ≤ k →
    outcome = .error (.sourceMap k entries.length)
  sourceless : ∀ k e, Bytecode.EndsAt code k o → entries[k]? = some e →
    e.start < 0 ∨ e.length < 0 → outcome = .ok .unresolved
  counted : ∀ k e, Bytecode.EndsAt code k o → entries[k]? = some e → 0 ≤ e.start → 0 ≤ e.length →
    0 ≤ e.fileIndex → e.fileIndex < a.sources.length →
    ∃ path s, a.sourceNames[e.fileIndex.toNat]? = some path ∧ Table.get? a.sources path = some s ∧
      outcome = .ok (countedSpan (utf8Bytes (a.textOf path s)) e.start e.length)

namespace Artifact

variable {a : Artifact}

/-- The line table under a path is that of the text of the source there. -/
theorem exists_lineTable {path : String} (h : path ∈ a.sources.map (·.1)) :
    ∃ s, Table.get? a.sources path = some s ∧
      Table.get? a.lineTables path = some (LineTable.ofText (a.textOf path s)) := by
  obtain ⟨s, hs⟩ := Table.exists_get? h
  refine ⟨s, hs, ?_⟩
  rw [lineTables, Table.get?_map a.sources fun path s => LineTable.ofText (a.textOf path s), hs]
  rfl

/-- A file index in range names a source, whose text the line table under its path is of. -/
theorem exists_source {n : Nat} (h : n < a.sources.length) :
    ∃ path s, a.sourceNames[n]? = some path ∧ Table.get? a.sources path = some s ∧
      Table.get? a.lineTables path = some (LineTable.ofText (a.textOf path s)) := by
  rw [← a.length_sourceNames] at h
  have hpath := List.getElem?_eq_getElem h
  obtain ⟨s, hs, ht⟩ := exists_lineTable (mem_sourceNames.mp (List.mem_of_getElem? hpath))
  exact ⟨_, s, hpath, hs, ht⟩

end Artifact

namespace ContractView

variable {a : Artifact} {v : ContractView} {path : String}

theorem mem_sources_of_sourceName? (hv : ofArtifact a = .ok v) {e : SourceMap.Entry}
    (h : v.resolver.sourceName? e = some path) : path ∈ a.sources.map (·.1) := by
  obtain ⟨_, _, _, _, rfl⟩ := ofArtifact_eq_ok_iff.mp hv
  rw [Resolver.sourceName?] at h
  split_ifs at h
  exact Artifact.mem_sourceNames.mp (List.mem_of_getElem? h)

/-- A location that is looked up in a source of the artifact is looked up in its text. -/
theorem exists_outcome_lineTable (hv : ofArtifact a = .ok v) (h : path ∈ a.sources.map (·.1)) :
    ∃ s, Table.get? a.sources path = some s ∧
      (v.resolver.lineTable (some path)).outcome = .ok (some (LineTable.ofText (a.textOf path s))) := by
  obtain ⟨_, _, _, _, rfl⟩ := ofArtifact_eq_ok_iff.mp hv
  obtain ⟨s, hs, ht⟩ := Artifact.exists_lineTable h
  exact ⟨s, hs, Resolver.lineTable_of_get? ht⟩

end ContractView

namespace Artifact

variable {a : Artifact}

theorem resolve_bytecode {code : List UInt8} {entries : List SourceMap.Entry}
    (hpaths : ∀ e ∈ a.sources, e.1 ≠ "")
    (hcode : Bytecode.decode "deployedBytecode" a.deployedBytecode = .ok code)
    (hentries : SourceMap.decode a.deployedSourceMap = .ok entries)
    {location : String} {o : Int} (hlocation : SourceMap.LeadsWith location o) (name : Option String) :
    ∃ v, ContractView.ofArtifact a = .ok v ∧ BytecodeResolution a code entries o
      (v.resolver.resolve location (some SourceMap.Format.bytecode.name) name).outcome := by
  let r : Resolver := ⟨.ofBytes code, entries, a.lineTables, a.sourceNames⟩
  have hview : ContractView.ofArtifact a = .ok ⟨a, r, a.trees⟩ := by
    rw [ContractView.ofArtifact, Bytecode.InstructionTable.ofHex, hcode, hentries]
    rfl
  have hentry : ∀ k, Bytecode.EndsAt code k o →
      (r.entry location (some SourceMap.Format.bytecode.name)).outcome =
        match entries[k]? with
        | some e => .ok (some e)
        | none => .error (.sourceMap k entries.length) := by
    intro k hk
    exact Resolver.outcome_entry_of_endsAt rfl hlocation hk
  refine ⟨_, hview, ?_, ?_, ?_, ?_⟩
  · intro hnone
    apply Resolver.resolve_of_entry_none
    rw [Resolver.outcome_entry_bytecode hlocation,
      Bytecode.InstructionTable.find?_ofBytes_eq_none_iff.mpr hnone]
  · intro k hk hlength
    apply Resolver.resolve_of_entry_error
    rw [hentry k hk, List.getElem?_eq_none hlength]
  · intro k e hk he hneg
    have hsource : e.hasSource = false := by
      rw [SourceMap.Entry.hasSource, Bool.and_eq_false_iff, decide_eq_false_iff_not,
        decide_eq_false_iff_not]
      omega
    apply Resolver.resolve_of_not_hasSource _ hsource
    rw [hentry k hk, he]
  · intro k e hk he hstart hlength hlow hhigh
    obtain ⟨path, s, hname, hs, ht⟩ := exists_source (a := a) (n := e.fileIndex.toNat) (by omega)
    have hpath : path ≠ "" := by
      obtain ⟨d, hd, rfl⟩ := List.mem_map.mp (mem_sourceNames.mp (List.mem_of_getElem? hname))
      exact hpaths d hd
    have hsource : e.hasSource = true := by
      rw [SourceMap.Entry.hasSource, Bool.and_eq_true_iff, decide_eq_true_iff, decide_eq_true_iff]
      exact ⟨hstart, hlength⟩
    refine ⟨path, s, hname, hs, ?_⟩
    rw [← LineTable.span_ofText _ _ hlength]
    apply Resolver.resolve_of_lineTable _ hsource
    · rw [Resolver.target_bytecode hlow hname hpath]
      exact Resolver.lineTable_of_get? ht
    · rw [hentry k hk, he]

def twoSources : Artifact where
  name := "A"
  bytecode := ""
  deployedBytecode := "0x600155"
  sourceMap := ""
  deployedSourceMap := "0:1:0;3:2:1"
  sourcePath := "a.sol"
  source := ""
  ast := none
  legacyAst := none
  compilerVersion := none
  sources := [("b.sol", ⟨"é\nxy", none, none, some 1⟩), ("a.sol", ⟨"a", none, none, some 0⟩)]

/-- The second instruction is looked up in the second source by id, past a character of two bytes. -/
theorem twoSources_resolve_bytecode : ∃ v, ContractView.ofArtifact twoSources = .ok v ∧
    BytecodeResolution twoSources [0x60, 0x01, 0x55] [⟨0, 1, 0, .regular⟩, ⟨3, 2, 1, .regular⟩] 2
      (v.resolver.resolve "2:0" (some SourceMap.Format.bytecode.name) (some "a.sol")).outcome :=
  resolve_bytecode (by decide) rfl rfl
    ⟨['2'], [':', '0'], rfl, by simp, by simp, rfl⟩ (some "a.sol")

end Artifact
end AuditReport
