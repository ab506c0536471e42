import AuditReport.Artifact.Build
import AuditReport.Proofs.Decode.Checked
import AuditReport.Proofs.Noted

/-!
# Decoded records

A decoded source and a decoded artifact are told field by field by the record that they come from.
-/
namespace AuditReport

theorem Decode.Checked.orFault_eq_ok_iff {α : Type} {x : Checked α} {a : α} :
    x.orFault = .ok a ↔ x = .ok a := by
  cases x <;> simp [orFault]

open Decode Decode.Checked

/-- The texts of an artifact that no source has a part in, with their names in a record. -/
def Artifact.ownTexts (a : Artifact) : List (String × String) :=
  [("contractName", a.name), ("bytecode", a.bytecode), ("deployedBytecode", a.deployedBytecode),
    ("sourceMap", a.sourceMap), ("deployedSourceMap", a.deployedSourceMap)]

namespace Build

structure Holds (entry : Json) (s : SourceFile) : Prop where
  text : textOf (entriesOrNone entry) "source" = .str s.text
  ast : Json.valueOf (entriesOrNone entry) "ast" = .ofFields? s.ast
  legacyAst : legacyAstOf (entriesOrNone entry) = .ofFields? s.legacyAst
  id : Decode.optional Decode.integer (Json.valueOf (entriesOrNone entry) "id") = .ok s.id

def HoldsAll (entries : Json.Fields) (sources : Table SourceFile) : Prop :=
  List.Forall₂ (fun e s => s.1 = e.1 ∧ Holds e.2 s.2) entries sources

theorem ofFields_eq_ok_iff {fs : Json.Fields} {text ast legacy id : Json}
    (htext : Table.get? fs "source" = some text) (hast : Table.get? fs "ast" = some ast)
    (hlegacy : Table.get? fs "legacyAST" = some legacy) (hid : Table.get? fs "id" = some id)
    {s : SourceFile} : SourceFile.ofFields fs = .ok s ↔
      text = .str s.text ∧ ast = .ofFields? s.ast ∧ legacy = .ofFields? s.legacyAst ∧
        Decode.optional Decode.integer id = .ok s.id := by
  simp only [SourceFile.ofFields, map_eq, seq_eq, ap_eq_ok_iff, map_eq_ok_iff,
    withDefault_eq_ok_iff (f := .only "source") htext, withDefault_eq_ok_iff (f := .only "ast") hast,
    withDefault_eq_ok_iff (f := ⟨"legacyAST", "legacy_ast"⟩) hlegacy,
    withDefault_eq_ok_iff (f := .only "id") hid, text_eq_ok_iff, optional_object_eq_ok_iff]
  constructor
  · rintro ⟨_, ⟨_, ⟨_, ⟨_, htext, rfl⟩, _, hast, rfl⟩, _, hlegacy, rfl⟩, _, hid, rfl⟩
    exact ⟨htext, hast, hlegacy, hid⟩
  · rintro ⟨htext, hast, hlegacy, hid⟩
    exact ⟨_, ⟨_, ⟨_, ⟨_, htext, rfl⟩, _, hast, rfl⟩, _, hlegacy, rfl⟩, _, hid, rfl⟩

/-- An entry that is no object holds a source without text, trees and id. -/
theorem decode_sourceRecord_eq_ok_iff {v : Json} {s : SourceFile} :
    SourceFile.decode (sourceRecord v) = .ok s ↔ Holds v s := by
  have hblank : SourceFile.decode (.obj []) = .ok s ↔ Holds .null s := by
    rw [show SourceFile.decode (.obj []) = .ok ⟨"", none, none, none⟩ from rfl, Checked.ok.injEq]
    constructor
    · rintro rfl
      exact ⟨rfl, rfl, rfl, rfl⟩
    · rintro ⟨htext, hast, hlegacy, hid⟩
      rw [← optional_object_eq_ok_iff] at hast hlegacy
      cases s
      cases htext
      cases hast
      cases hlegacy
      cases hid
      rfl
  cases v with
  | obj fs =>
    exact (ofFields_eq_ok_iff rfl rfl rfl rfl).trans
      ⟨fun ⟨htext, hast, hlegacy, hid⟩ => ⟨htext, hast, hlegacy, hid⟩,
        fun ⟨htext, hast, hlegacy, hid⟩ => ⟨htext, hast, hlegacy, hid⟩⟩
  | _ =>
    exact hblank.trans ⟨fun h => ⟨h.text, h.ast, h.legacyAst, h.id⟩,
      fun h => ⟨h.text, h.ast, h.legacyAst, h.id⟩⟩

theorem textOf_orElse_empty (fs : Json.Fields) (key : String) :
    (textOf fs key).orElse (.str "") = textOf fs key := by
  unfold textOf Json.orElse
  split_ifs <;> rfl

/-- An entry holds the same source after all but its source is left out. -/
theorem holds_sourceRecord_iff {v : Json} {s : SourceFile} : Holds (sourceRecord v) s ↔ Holds v s := by
  have hkept : ∀ fs : Json.Fields, Holds (sourceRecord (.obj fs)) s ↔ Holds (.obj fs) s := by
    intro fs
    have htext : textOf (entriesOrNone (sourceRecord (.obj fs))) "source" = textOf fs "source" :=
      textOf_orElse_empty fs "source"
    constructor
    · rintro ⟨h, hast, hlegacy, hid⟩
      rw [htext] at h
      exact ⟨h, hast, hlegacy, hid⟩
    · rintro ⟨h, hast, hlegacy, hid⟩
      exact ⟨htext.trans h, hast, hlegacy, hid⟩
  cases v with
  | obj fs => exact hkept fs
  | _ => exact ⟨fun h => ⟨h.text, h.ast, h.legacyAst, h.id⟩, fun h => ⟨h.text, h.ast, h.legacyAst, h.id⟩⟩

/-- The source is decoded from an entry of which it was kept before. -/
theorem decode_sourceRecord_sourceRecord_eq_ok_iff {v : Json} {s : SourceFile} :
    SourceFile.decode (sourceRecord (sourceRecord v)) = .ok s ↔ Holds v s :=
  decode_sourceRecord_eq_ok_iff.trans holds_sourceRecord_iff

structure ReadFrom (fs main : Json.Fields) (path : Json) (a : Artifact) : Prop where
  own : ∀ t ∈ a.ownTexts, textOf fs t.1 = .str t.2
  path : path = .str a.sourcePath
  source : ((Json.valueOf fs "source").orElse (Json.valueOf main "source")).orElse (.str "") =
    .str a.source
  ast : (Json.valueOf fs "ast").orElse (Json.valueOf main "ast") = .ofFields? a.ast
  legacyAst : (legacyAstOf fs).orElse (Json.valueOf main "legacyAST") = .ofFields? a.legacyAst

theorem ofFieldsWith_eq_ok_iff {fs main : Json.Fields} {path : Json}
    {sources : Checked (Table SourceFile)} {a : Artifact} :
    Artifact.ofFieldsWith (artifactRecord fs main path) sources = .ok a ↔
      ReadFrom fs main path a ∧ compilerVersion fs = .ofText? a.compilerVersion ∧
        sources = .ok a.sources := by
  have hfield : ∀ {α : Type} (f : FieldName) {v : Json},
      Table.get? (artifactRecord fs main path) f.written = some v →
      ∀ {default x : α} {d : Json → Checked α},
        withDefault (artifactRecord fs main path) f default d = .ok x ↔ d v = .ok x :=
    fun _ _ hv => withDefault_eq_ok_iff hv
  simp only [Artifact.ofFieldsWith, map_eq, seq_eq, ap_eq_ok_iff, map_eq_ok_iff,
    hfield ⟨"contractName", "contract_name"⟩ rfl, hfield (.only "bytecode") rfl,
    hfield ⟨"deployedBytecode", "deployed_bytecode"⟩ rfl, hfield ⟨"sourceMap", "source_map"⟩ rfl,
    hfield ⟨"deployedSourceMap", "deployed_source_map"⟩ rfl, hfield ⟨"sourcePath", "source_path"⟩ rfl,
    hfield (.only "source") rfl, hfield (.only "ast") rfl, hfield ⟨"legacyAST", "legacy_ast"⟩ rfl,
    hfield ⟨"compilerVersion", "compiler_version"⟩ rfl, text_eq_ok_iff, optional_object_eq_ok_iff,
    optional_text_eq_ok_iff]
  constructor
  · rintro ⟨_, ⟨_, ⟨_, ⟨_, ⟨_, ⟨_, ⟨_, ⟨_, ⟨_, ⟨_, ⟨_, hname, rfl⟩, _, hbytecode, rfl⟩, _, hdeployed, rfl⟩,
      _, hmap, rfl⟩, _, hdeployedMap, rfl⟩, _, hpath, rfl⟩, _, hsource, rfl⟩, _, hast, rfl⟩,
      _, hlegacy, rfl⟩, _, hversion, rfl⟩, _, hsources, rfl⟩
    refine ⟨⟨?_, hpath, hsource, hast, hlegacy⟩, hversion, hsources⟩
    simp only [Artifact.ownTexts, List.forall_mem_cons]
    exact ⟨hname, hbytecode, hdeployed, hmap, hdeployedMap, List.forall_mem_nil _⟩
  · rintro ⟨⟨hown, hpath, hsource, hast, hlegacy⟩, hversion, hsources⟩
    simp only [Artifact.ownTexts, List.forall_mem_cons] at hown
    obtain ⟨hname, hbytecode, hdeployed, hmap, hdeployedMap, _⟩ := hown
    exact ⟨_, ⟨_, ⟨_, ⟨_, ⟨_, ⟨_, ⟨_, ⟨_, ⟨_, ⟨_, ⟨_, hname, rfl⟩, _, hbytecode, rfl⟩, _, hdeployed, rfl⟩,
      _, hmap, rfl⟩, _, hdeployedMap, rfl⟩, _, hpath, rfl⟩, _, hsource, rfl⟩, _, hast, rfl⟩,
      _, hlegacy, rfl⟩, _, hversion, rfl⟩, _, hsources, rfl⟩

theorem readFrom_of_ofFieldsWith {fs main : Json.Fields} {path : Json}
    {sources : Checked (Table SourceFile)} {a : Artifact}
    (h : Artifact.ofFieldsWith (artifactRecord fs main path) sources = .ok a) :
    ReadFrom fs main path a ∧ sources = .ok a.sources := by
  obtain ⟨hread, _, hsources⟩ := ofFieldsWith_eq_ok_iff.mp h
  exact ⟨hread, hsources⟩

end Build
end AuditReport
