import AuditReport.Proofs.Artifact.DecodedFields
import AuditReport.Proofs.Config.Merge
import AuditReport.Proofs.Location.BytecodeLocation

/-!
# Artifacts that are loaded again

An artifact is written out as a record in which every field stands under one name. A field that the artifact
does not give is looked for at its own source again, so loading the record changes nothing as long as that
source does not give it either. This holds of every loaded artifact but one whose own source has a legacy
tree that was not found: in a build record the tree may stand under either of two names, and at the own
source only one of them is looked for.
-/
namespace AuditReport

namespace Json

theorem orElse_assoc (u v w : Json) : (u.orElse v).orElse w = u.orElse (v.orElse w) := by
  unfold orElse
  by_cases hu : u.given = true
  · simp only [if_pos hu]
  · simp only [if_neg hu]

theorem orElse_orElse_right (v w : Json) : (v.orElse w).orElse w = v.orElse w := by
  rw [orElse_assoc]
  congr 1
  rw [orElse, ite_self]

theorem str_orElse_empty (s : String) : (str s).orElse (str "") = str s := by
  unfold orElse
  split_ifs with h
  · rfl
  · have hs : s = "" := by simpa [given] using h
    rw [hs]

theorem orElse_of_given {v : Json} (h : v.given = true) (w : Json) : v.orElse w = v :=
  if_pos h

theorem orElse_of_not_given {v : Json} (h : v.given = false) (w : Json) : v.orElse w = w :=
  if_neg (Bool.eq_false_iff.mp h)

end Json

namespace Artifact

def reload (a : Artifact) : Except Fault Artifact := do
  Build.artifact (← Build.entries a.toJson)

structure IsNormalForm (a : Artifact) : Prop where
  hasSources : a.sources ≠ []
  reloaded : a.reload = .ok a

/-- The source under the path of the artifact, one without anything if there is none. -/
def ownSource (a : Artifact) : SourceFile :=
  (Table.get? a.sources a.sourcePath).getD ⟨"", none, none, none⟩

/-- Nothing that the artifact does not give is given by its own source. -/
structure Settled (a : Artifact) : Prop where
  source : (Json.str a.source).orElse (.str a.ownSource.text) = .str a.source
  ast : (Json.ofFields? a.ast).orElse (.ofFields? a.ownSource.ast) = .ofFields? a.ast
  legacyAst : (Json.ofFields? a.legacyAst).orElse (.ofFields? a.ownSource.legacyAst) =
    .ofFields? a.legacyAst

end Artifact

namespace Build

/-- The record gives no legacy tree, and the entry for its path has one under the second name alone. -/
structure HidesLegacyTree (fs : Json.Fields) : Prop where
  notGiven : (legacyAstOf fs).given = false
  elsewhere : ∃ table path main, Json.valueOf fs "sources" = .obj table ∧
    textOf fs "sourcePath" = .str path ∧ Table.get? table path = some (.obj main) ∧
    Table.get? main "legacyAST" = none ∧ Json.valueOf main "legacyAst" ≠ .null

def tableFor (fs : Json.Fields) (path : String) : Json.Fields :=
  (sourceTable? fs).getD [(path, ownSource fs)]

def mainEntry (fs : Json.Fields) (path : String) : Json.Fields :=
  entriesOrNone (Json.valueOf (tableFor fs path) path)

variable {fs table : Json.Fields} {path : String} {t : Table SourceFile} {a : Artifact}

theorem sourcesFor_str (fs : Json.Fields) (path : String) :
    sourcesFor fs (.str path) = (sourcesFor.decodeTable (tableFor fs path), mainEntry fs path) := by
  unfold mainEntry tableFor sourcesFor
  cases sourceTable? fs with
  | some table => rfl
  | none =>
    have hown : Json.valueOf [(path, ownSource fs)] path = ownSource fs := by
      rw [Json.valueOf, Table.get?_cons, if_pos rfl]
      rfl
    rw [Option.getD_none, hown]

theorem decodeTable_eq_ok_iff : sourcesFor.decodeTable table = .ok t ↔ HoldsAll table t := by
  simp only [sourcesFor.decodeTable, Decode.Checked.under_eq_ok_iff, Decode.Checked.values_eq_ok_iff,
    List.forall₂_map_left_iff, decode_sourceRecord_eq_ok_iff]
  rfl

theorem tableFor_ne_nil (fs : Json.Fields) (path : String) : tableFor fs path ≠ [] := by
  unfold tableFor sourceTable?
  split
  · exact List.cons_ne_nil _ _
  · exact List.cons_ne_nil _ _

/-- An artifact is loaded exactly if its fields and its sources are read from the record. -/
theorem artifact_eq_ok_iff : artifact fs = .ok a ↔
    ReadFrom fs (mainEntry fs a.sourcePath) (textOf fs "sourcePath") a ∧
      compilerVersion fs = .ofText? a.compilerVersion ∧
      HoldsAll (tableFor fs a.sourcePath) a.sources := by
  have hloads : textOf fs "sourcePath" = .str a.sourcePath → (artifact fs = .ok a ↔
      ReadFrom fs (mainEntry fs a.sourcePath) (textOf fs "sourcePath") a ∧
        compilerVersion fs = .ofText? a.compilerVersion ∧
        HoldsAll (tableFor fs a.sourcePath) a.sources) := by
    intro hpath
    unfold artifact
    simp only [hpath, sourcesFor_str, canBeKey, if_true, Decode.Checked.orFault_eq_ok_iff,
      ofFieldsWith_eq_ok_iff, decodeTable_eq_ok_iff]
  constructor
  · intro h
    have hpath : textOf fs "sourcePath" = .str a.sourcePath := by
      simp only [artifact] at h
      split_ifs at h
      exact (readFrom_of_ofFieldsWith (Decode.Checked.orFault_eq_ok_iff.mp h)).1.path
    exact (hloads hpath).mp h
  · intro h
    exact (hloads h.1.path).mpr h

/-- What is held under a path; an entry that is not there holds nothing. -/
theorem holds_valueOf (h : HoldsAll table t) (path : String) :
    Holds (Json.valueOf table path) ((Table.get? t path).getD ⟨"", none, none, none⟩) := by
  induction h with
  | nil => exact ⟨rfl, rfl, rfl, rfl⟩
  | cons he _ ih =>
    unfold Json.valueOf at ih ⊢
    rw [Table.get?_cons, Table.get?_cons, he.1]
    split_ifs
    · exact he.2
    · exact ih

/-- Where an entry holds a source, the artifact has of it what the record does not give. -/
theorem readFrom_iff {entry path : Json} {s : SourceFile} (h : Holds entry s) :
    ReadFrom fs (entriesOrNone entry) path a ↔
      (∀ t ∈ a.ownTexts, textOf fs t.1 = .str t.2) ∧ path = .str a.sourcePath ∧
      (Json.valueOf fs "source").orElse (.str s.text) = .str a.source ∧
      (Json.valueOf fs "ast").orElse (.ofFields? s.ast) = .ofFields? a.ast ∧
      (legacyAstOf fs).orElse (Json.valueOf (entriesOrNone entry) "legacyAST") =
        .ofFields? a.legacyAst := by
  rw [← h.text, ← h.ast, textOf, ← Json.orElse_assoc]
  exact ⟨fun ⟨hown, hpath, hsource, hast, hlegacy⟩ => ⟨hown, hpath, hsource, hast, hlegacy⟩,
    fun ⟨hown, hpath, hsource, hast, hlegacy⟩ => ⟨hown, hpath, hsource, hast, hlegacy⟩⟩

theorem holds_toJson (s : SourceFile) : Holds s.toJson s where
  text := Json.str_orElse_empty s.text
  ast := rfl
  legacyAst := rfl
  id := by
    obtain ⟨_, _, _, id⟩ := s
    cases id <;> rfl

theorem holdsAll_toJson (t : Table SourceFile) :
    HoldsAll (t.map fun e => (e.1, e.2.toJson)) t := by
  rw [HoldsAll, List.forall₂_map_left_iff, List.forall₂_same]
  exact fun e _ => ⟨rfl, holds_toJson e.2⟩

/-- Where a source is found again, its entry holds what the artifact keeps of it. -/
theorem tableFor_toJson (h : a.sources ≠ []) (path : String) :
    tableFor (entriesOrNone a.toJson) path = a.sources.map fun e => (e.1, e.2.toJson) := by
  have htable : Json.valueOf (entriesOrNone a.toJson) "sources" =
      .obj (a.sources.map fun e => (e.1, e.2.toJson)) := rfl
  unfold tableFor sourceTable?
  rw [htable]
  cases hsources : a.sources with
  | nil => contradiction
  | cons e t => rfl

theorem legacyAstOf_mainEntry_toJson (h : a.sources ≠ []) (path : String) :
    legacyAstOf (mainEntry (entriesOrNone a.toJson) path) =
      Json.valueOf (mainEntry (entriesOrNone a.toJson) path) "legacyAST" := by
  rw [mainEntry, tableFor_toJson h, Json.valueOf, Table.get?_map a.sources fun _ s => s.toJson]
  cases Table.get? a.sources path <;> rfl

/-- The record of an artifact is loaded as the same one exactly if nothing is to be found at the own source
that the artifact does not give. -/
theorem reload_eq_ok_iff (h : a.sources ≠ []) : a.reload = .ok a ↔ a.Settled := by
  have hheld := holds_valueOf (holdsAll_toJson a.sources) a.sourcePath
  rw [← tableFor_toJson h a.sourcePath] at hheld
  have hlegacy : Json.valueOf (mainEntry (entriesOrNone a.toJson) a.sourcePath) "legacyAST" =
      .ofFields? a.ownSource.legacyAst :=
    (legacyAstOf_mainEntry_toJson h a.sourcePath).symm.trans hheld.legacyAst
  change artifact (entriesOrNone a.toJson) = .ok a ↔ _
  rw [artifact_eq_ok_iff, mainEntry, readFrom_iff hheld, ← mainEntry, hlegacy]
  constructor
  · rintro ⟨⟨_, _, hsource, hast, hlegacy⟩, _⟩
    exact ⟨hsource, hast, hlegacy⟩
  · rintro ⟨hsource, hast, hlegacy⟩
    refine ⟨⟨?_, Json.str_orElse_empty a.sourcePath, hsource, hast, hlegacy⟩, rfl, ?_⟩
    · simp only [Artifact.ownTexts, List.forall_mem_cons]
      exact ⟨Json.str_orElse_empty _, Json.str_orElse_empty _, Json.str_orElse_empty _,
        Json.str_orElse_empty _, Json.str_orElse_empty _, List.forall_mem_nil _⟩
    · rw [tableFor_toJson h]
      exact holdsAll_toJson a.sources

theorem sourceTable?_eq_some {table : Json.Fields} (h : sourceTable? fs = some table) :
    Json.valueOf fs "sources" = .obj table := by
  unfold sourceTable? at h
  split at h
  · rename_i htable
    cases h
    exact htable
  · cases h

/-- Such a tree stands in the entry for the path, in a table that the record has. -/
theorem hidesLegacyTree_iff (hpath : textOf fs "sourcePath" = .str path) :
    HidesLegacyTree fs ↔ (legacyAstOf fs).given = false ∧
      Table.get? (mainEntry fs path) "legacyAST" = none ∧
      Json.valueOf (mainEntry fs path) "legacyAst" ≠ .null := by
  constructor
  · rintro ⟨hgiven, table, path', main, htable, hpath', hmain, hnone, hother⟩
    obtain rfl : path = path' := Json.str.inj (hpath.symm.trans hpath')
    have hentry : mainEntry fs path = main := by
      unfold mainEntry tableFor sourceTable?
      rw [htable]
      cases table with
      | nil => cases hmain
      | cons e table =>
        rw [Option.getD_some, Json.valueOf, hmain]
        rfl
    rw [hentry]
    exact ⟨hgiven, hnone, hother⟩
  · rintro ⟨hgiven, hnone, hother⟩
    refine ⟨hgiven, ?_⟩
    unfold mainEntry tableFor at hnone hother
    cases htable : sourceTable? fs with
    | none =>
      -- The source that the record holds itself has its tree under the first name.
      rw [htable, Option.getD_none, Json.valueOf, Table.get?_cons, if_pos rfl] at hnone
      cases hnone
    | some table =>
      rw [htable, Option.getD_some] at hnone hother
      cases hentry : Table.get? table path with
      | none =>
        have hnull : Json.valueOf table path = .null := by
          rw [Json.valueOf, hentry]
          rfl
        rw [hnull] at hother
        exact absurd rfl hother
      | some v =>
        have hv : Json.valueOf table path = v := by
          rw [Json.valueOf, hentry]
          rfl
        rw [hv] at hnone hother
        cases v with
        | obj main => exact ⟨table, path, main, sourceTable?_eq_some htable, hpath, hentry, hnone, hother⟩
        | _ => exact absurd rfl hother

/-- Looking for a legacy tree under the first name and then under both is no different from looking under
the first name alone, unless the second name is the only one. -/
theorem orElse_legacyAstOf_iff (v : Json) (main : Json.Fields) :
    (v.orElse (Json.valueOf main "legacyAST")).orElse (legacyAstOf main) =
        v.orElse (Json.valueOf main "legacyAST") ↔
      ¬ (v.given = false ∧ Table.get? main "legacyAST" = none ∧
        Json.valueOf main "legacyAst" ≠ .null) := by
  cases hfirst : Table.get? main "legacyAST" with
  | some tree =>
    have hsame : legacyAstOf main = Json.valueOf main "legacyAST" := by
      simp only [legacyAstOf, Json.valueOfEither, Json.valueOf, hfirst, Option.getD_some]
    rw [hsame]
    refine iff_of_true (Json.orElse_orElse_right _ _) ?_
    rintro ⟨_, hnone, _⟩
    cases hnone
  | none =>
    have hnull : Json.valueOf main "legacyAST" = .null := by
      rw [Json.valueOf, hfirst]
      rfl
    have hother : legacyAstOf main = Json.valueOf main "legacyAst" := by
      rw [legacyAstOf, Json.valueOfEither, hfirst]
      rfl
    rw [hnull, hother, Json.orElse_assoc]
    cases hgiven : v.given with
    | true =>
      rw [Json.orElse_of_given hgiven, Json.orElse_of_given hgiven]
      refine iff_of_true rfl ?_
      rintro ⟨hnot, _⟩
      cases hnot
    | false =>
      rw [Json.orElse_of_not_given hgiven, Json.orElse_of_not_given hgiven,
        Json.orElse_of_not_given rfl]
      simp

/-- What a second loading finds at the own source was found by the first one, except for a legacy tree
under the second name. -/
theorem settled_iff (h : artifact fs = .ok a) : a.Settled ↔ ¬ HidesLegacyTree fs := by
  obtain ⟨hread, _, hsources⟩ := artifact_eq_ok_iff.mp h
  have hheld := holds_valueOf hsources a.sourcePath
  obtain ⟨_, hpath, hsource, hast, hlegacy⟩ := (readFrom_iff hheld).mp hread
  have hsettled : a.Settled ↔ (Json.ofFields? a.legacyAst).orElse (.ofFields? a.ownSource.legacyAst) =
      .ofFields? a.legacyAst := by
    refine ⟨fun h => h.legacyAst, fun h => ⟨?_, ?_, h⟩⟩
    · rw [← hsource]
      exact Json.orElse_orElse_right _ _
    · rw [← hast]
      exact Json.orElse_orElse_right _ _
  have hfound : Json.ofFields? a.ownSource.legacyAst = legacyAstOf (mainEntry fs a.sourcePath) :=
    hheld.legacyAst.symm
  rw [hsettled, hidesLegacyTree_iff hpath, hfound, ← hlegacy]
  exact orElse_legacyAstOf_iff _ _

/-- A loaded artifact is a normal form unless its record has a legacy tree that is not found. -/
theorem isNormalForm_iff (h : artifact fs = .ok a) : a.IsNormalForm ↔ ¬ HidesLegacyTree fs := by
  have hne : a.sources ≠ [] := by
    intro hnil
    have hsources := (artifact_eq_ok_iff.mp h).2.2
    rw [hnil] at hsources
    exact tableFor_ne_nil fs a.sourcePath (List.forall₂_nil_right_iff.mp hsources)
  rw [← settled_iff h, ← reload_eq_ok_iff hne]
  exact ⟨fun h => h.reloaded, fun h => ⟨hne, h⟩⟩

def foundAtSource : Json.Fields :=
  [("contractName", .str "A"), ("sourcePath", .str "a.sol"), ("ast", .obj []),
    ("compiler", .obj [("version", .str "0.5.0")]),
    ("sources", .obj [("b.sol", .null), ("a.sol", .obj [("source", .str "contract A {}"),
      ("ast", .obj [("nodeType", .str "SourceUnit")]), ("legacyAST", .null), ("id", .str "2"),
      ("legacyAst", .obj [("name", .str "SourceUnit")])])])]

theorem foundAtSource_isNormalForm : ∃ a, artifact foundAtSource = .ok a ∧ a.IsNormalForm ∧
    a.source = "contract A {}" ∧ a.compilerVersion = some "0.5.0" := by
  have hfound : ¬ HidesLegacyTree foundAtSource := by
    rintro ⟨_, table, path, main, htable, hpath, hmain, hnone, _⟩
    cases htable
    cases hpath
    cases hmain
    cases hnone
  exact ⟨_, rfl, (isNormalForm_iff (show artifact foundAtSource = .ok _ from rfl)).mpr hfound, rfl, rfl⟩

def underSecondName : Json.Fields :=
  [("sourcePath", .str "a.sol"),
    ("sources", .obj [("a.sol", .obj [("legacyAst", .obj [("name", .str "SourceUnit")])])])]

/-- The tree is not found when the artifact is loaded, but when it is loaded again. -/
theorem not_forall_isNormalForm : ¬ ∀ fs a, artifact fs = .ok a → a.IsNormalForm := by
  intro h
  have hreload := (h underSecondName _ rfl).reloaded
  cases hreload

end Build
end AuditReport
