import AuditReport.Proofs.Artifact.DecodedFields
import AuditReport.Proofs.Config.Merge
import AuditReport.Proofs.Json.KeyedOnce
import AuditReport.Proofs.Syntax.SearchedTree
import Mathlib.Data.List.Basic

/-!
# The sources that the contracts of a build share

A build that lists contracts is split into one artifact for each of them, in order. Every artifact has the
source table of the build, whatever its contract says, and its own text and trees are those that the table
has for its path. So the tables that locations are resolved against are the same for all of them.
-/
namespace AuditReport

namespace Build

def sourceEntries (fs : Json.Fields) : Json.Fields :=
  entriesOrNone (Json.valueOf fs "sources")

/-- The contracts that an entry lists; what is no list has none. -/
def contractsIn (entry : Json) : List Json :=
  match Json.valueOf (entriesOrNone entry) "contracts" with
  | .arr items => items
  | _ => []

def listedContracts (sources : Json.Fields) : List (String × Json) :=
  sources.flatMap fun e => (contractsIn e.2).map fun c => (e.1, c)

structure IsListed (sources : Json.Fields) (listed : String × Json) (a : Artifact) : Prop where
  path : a.sourcePath = listed.1
  own : ∀ t ∈ a.ownTexts, textOf (entriesOrNone listed.2) t.1 = .str t.2
  sources : HoldsAll sources a.sources

end Build

structure Artifact.SharesSources (a b : Artifact) : Prop where
  sources : a.sources = b.sources
  lineTables : a.lineTables = b.lineTables
  trees : a.trees = b.trees
  sourceNames : a.sourceNames = b.sourceNames

structure Build.SplitsInto (fs : Json.Fields) (artifacts : List Artifact) : Prop where
  listed : List.Forall₂ (IsListed (sourceEntries fs)) (listedContracts (sourceEntries fs)) artifacts
  shared : ∀ a ∈ artifacts, ∀ b ∈ artifacts, a.SharesSources b
  /-- The views of two contracts look up the same sources. -/
  viewed : ∀ a ∈ artifacts, ∀ b ∈ artifacts, ∀ v w, ContractView.ofArtifact a = .ok v →
    ContractView.ofArtifact b = .ok w → v.resolver.lineTables = w.resolver.lineTables ∧
      v.trees = w.trees ∧ v.resolver.sourceNames = w.resolver.sourceNames

namespace Artifact

def HoldsOwnSource (a : Artifact) : Prop :=
  ∃ s, (a.sourcePath, s) ∈ a.sources ∧ a.source = s.text ∧ a.ast = s.ast ∧ a.legacyAst = s.legacyAst

variable {a b : Artifact}

theorem lineTables_of_holdsOwnSource (hkeys : a.sources.keys.Nodup) (h : a.HoldsOwnSource) :
    a.lineTables = a.sources.map fun e => (e.1, LineTable.ofText e.2.text) := by
  obtain ⟨s, hs, htext, _⟩ := h
  apply List.map_congr_left
  intro e he
  have hsame : a.textOf e.1 e.2 = e.2.text := by
    unfold textOf
    split_ifs with hne hpath
    · rfl
    · have hes : e = (a.sourcePath, s) := List.inj_on_of_nodup_map hkeys he hs hpath
      rw [htext, hes]
    · exact (not_not.mp hne).symm
  rw [hsame]

theorem trees_of_holdsOwnSource (h : a.HoldsOwnSource) :
    a.trees = a.sources.filterMap fun e => (treeOf? e.2).map fun n => (e.1, n) := by
  obtain ⟨s, hs, _, hast, hlegacy⟩ := h
  have htree : root? a.tree = treeOf? s := by rw [tree, hast, hlegacy]; rfl
  unfold trees
  rw [htree]
  cases hroot : treeOf? s with
  | none => rfl
  | some n =>
    have hhas : Table.has (a.sources.filterMap fun e => (treeOf? e.2).map fun n => (e.1, n))
        a.sourcePath = true :=
      List.any_eq_true.mpr ⟨(a.sourcePath, n), List.mem_filterMap.mpr ⟨_, hs, by rw [hroot]; rfl⟩,
        beq_self_eq_true a.sourcePath⟩
    exact if_pos hhas

theorem SharesSources.of_holdsOwnSource (hsources : a.sources = b.sources)
    (hkeys : a.sources.keys.Nodup) (ha : a.HoldsOwnSource) (hb : b.HoldsOwnSource) :
    a.SharesSources b where
  sources := hsources
  lineTables := by
    rw [lineTables_of_holdsOwnSource hkeys ha, lineTables_of_holdsOwnSource (hsources ▸ hkeys) hb,
      hsources]
  trees := by rw [trees_of_holdsOwnSource ha, trees_of_holdsOwnSource hb, hsources]
  sourceNames := by
    unfold Artifact.sourceNames
    rw [hsources]

end Artifact

namespace Build

def knownOf (path : String) (entry : Json.Fields) (compiler : Json) (shared : Json.Fields) :
    Json.Fields :=
  [("sourcePath", .str path), ("source", textOf entry "source"), ("ast", Json.valueOf entry "ast"),
    ("legacyAST", legacyAstOf entry), ("compiler", compiler), ("sources", .obj shared)]

section Record

variable {contract entry shared : Json.Fields} {path : String} {compiler : Json}

/-- It goes before what the contract says. -/
theorem get?_contractRecord (key : String) :
    Table.get? (contractRecord contract path entry compiler shared) key =
      (Table.get? (knownOf path entry compiler shared) key).or (Table.get? contract key) := by
  apply Table.get?_putAll
  change ["sourcePath", "source", "ast", "legacyAST", "compiler", "sources"].Nodup
  decide

theorem valueOf_contractRecord {key : String} {v : Json}
    (h : Table.get? (knownOf path entry compiler shared) key = some v) :
    Json.valueOf (contractRecord contract path entry compiler shared) key = v := by
  rw [Json.valueOf, get?_contractRecord, h]
  rfl

theorem textOf_sourcePath : textOf (contractRecord contract path entry compiler shared) "sourcePath" =
    .str path := by
  rw [textOf, valueOf_contractRecord rfl]
  by_cases hpath : path = "" <;> simp [Json.orElse, Json.given, hpath]

theorem sourcesFor_contractRecord (hne : shared ≠ []) :
    sourcesFor (contractRecord contract path entry compiler shared) (.str path) =
      (sourcesFor.decodeTable shared, entriesOrNone (Json.valueOf shared path)) := by
  have htable : sourceTable? (contractRecord contract path entry compiler shared) = some shared := by
    rw [sourceTable?, valueOf_contractRecord rfl]
    cases shared with
    | nil => contradiction
    | cons f shared => rfl
  unfold sourcesFor
  rw [htable]

theorem textOf_own {t : String × String} {a : Artifact} (ht : t ∈ a.ownTexts) :
    textOf (contractRecord contract path entry compiler shared) t.1 = textOf contract t.1 := by
  have hnone : ∀ u ∈ a.ownTexts, Table.get? (knownOf path entry compiler shared) u.1 = none := by
    simp only [Artifact.ownTexts, List.forall_mem_cons]
    exact ⟨rfl, rfl, rfl, rfl, rfl, List.forall_mem_nil _⟩
  rw [textOf, textOf, Json.valueOf, Json.valueOf, get?_contractRecord, hnone t ht, Option.none_or]

theorem artifact_contractRecord_eq_ok {a : Artifact} (hne : shared ≠ [])
    (h : artifact (contractRecord contract path entry compiler shared) = .ok a) :
    ReadFrom (contractRecord contract path entry compiler shared)
      (entriesOrNone (Json.valueOf shared path)) (.str path) a ∧
      sourcesFor.decodeTable shared = .ok a.sources := by
  rw [artifact, textOf_sourcePath] at h
  simp only [sourcesFor_contractRecord hne] at h
  exact readFrom_of_ofFieldsWith (Decode.Checked.orFault_eq_ok_iff.mp h)

end Record

def shareable (sources : Json.Fields) : Json.Fields :=
  sources.map fun e => (e.1, sourceRecord e.2)

variable {sources : Json.Fields} {path : String}

theorem holdsAll_of_decodeTable {t : Table SourceFile}
    (h : sourcesFor.decodeTable (shareable sources) = .ok t) :
    HoldsAll sources t := by
  rw [sourcesFor.decodeTable, Decode.Checked.under_eq_ok_iff, Decode.Checked.values_eq_ok_iff,
    shareable, List.map_map, List.forall₂_map_left_iff] at h
  exact h.imp fun e s ⟨hkey, hs⟩ => ⟨hkey, decode_sourceRecord_sourceRecord_eq_ok_iff.mp hs⟩

theorem keys_of_holdsAll {t : Table SourceFile} (h : HoldsAll sources t) : t.keys = sources.keys := by
  induction h with
  | nil => rfl
  | cons he _ ih => exact congrArg₂ List.cons he.1 ih

theorem valueOf_shareable (hkeys : sources.keys.Nodup) {v : Json} (hv : (path, v) ∈ sources) :
    Json.valueOf (shareable sources) path = sourceRecord v := by
  have hsame : Table.keys (shareable sources) = sources.keys := List.map_map
  have hmem : (path, sourceRecord v) ∈ shareable sources := List.mem_map.mpr ⟨_, hv, rfl⟩
  rw [Json.valueOf, Table.get?_of_mem (hsame ▸ hkeys) hmem]
  rfl

theorem orElse_self (v : Json) : v.orElse v = v := by
  rw [Json.orElse, ite_self]

theorem ofFields?_injective : Function.Injective Json.ofFields? := by
  intro o o' h
  cases o <;> cases o' <;> cases h <;> rfl

/-- The text and the trees of an artifact come from its entry, in which the table of the build and the
record of the contract agree. -/
theorem holdsOwnSource_of_artifact {contract entry : Json.Fields} {compiler : Json} {a : Artifact}
    (hkeys : sources.keys.Nodup) (hentry : (path, .obj entry) ∈ sources)
    (h : ReadFrom (contractRecord contract path entry compiler (shareable sources))
      (entriesOrNone (Json.valueOf (shareable sources) path)) (.str path) a)
    (hsources : HoldsAll sources a.sources) : a.HoldsOwnSource := by
  obtain ⟨⟨key, s⟩, hs, hkey, hholds⟩ := exists_right_of_forall₂ hsources hentry
  rw [valueOf_shareable hkeys hentry] at h
  have hpath : a.sourcePath = path := (Json.str.inj h.path).symm
  have htext : Json.str a.source = .str s.text := by
    rw [← h.source, valueOf_contractRecord rfl, ← hholds.text]
    change ((textOf entry "source").orElse (textOf entry "source")).orElse (.str "") =
      textOf entry "source"
    rw [orElse_self, textOf_orElse_empty]
  have hast : Json.ofFields? a.ast = .ofFields? s.ast := by
    rw [← h.ast, valueOf_contractRecord rfl, ← hholds.ast]
    exact orElse_self _
  have hlegacy : Json.ofFields? a.legacyAst = .ofFields? s.legacyAst := by
    rw [← h.legacyAst, legacyAstOf, Json.valueOfEither, get?_contractRecord, ← hholds.legacyAst]
    exact orElse_self _
  have hown : (a.sourcePath, s) ∈ a.sources := by
    have hkey : key = path := hkey
    rwa [hpath, ← hkey]
  exact ⟨s, hown, Json.str.inj htext, ofFields?_injective hast, ofFields?_injective hlegacy⟩

/-- The artifact is made of the record of a contract that is listed under an entry of the build. -/
def IsMade (sources : Json.Fields) (listed : String × Json) (a : Artifact) : Prop :=
  ∃ contract entry compiler, listed.2 = .obj contract ∧ (listed.1, .obj entry) ∈ sources ∧
    artifact (contractRecord contract listed.1 entry compiler (shareable sources)) = .ok a

namespace IsMade

variable {listed : String × Json} {a : Artifact}

theorem shareable_ne_nil (h : IsMade sources listed a) : shareable sources ≠ [] := by
  obtain ⟨_, _, _, _, hentry, _⟩ := h
  exact fun hnil => List.ne_nil_of_mem hentry (List.map_eq_nil_iff.mp hnil)

theorem decodeTable_eq (h : IsMade sources listed a) :
    sourcesFor.decodeTable (shareable sources) = .ok a.sources := by
  have hne := h.shareable_ne_nil
  obtain ⟨contract, entry, compiler, _, _, ha⟩ := h
  exact (artifact_contractRecord_eq_ok hne ha).2

theorem isListed (h : IsMade sources listed a) : IsListed sources listed a := by
  have hne := h.shareable_ne_nil
  have hsources := holdsAll_of_decodeTable h.decodeTable_eq
  obtain ⟨contract, entry, compiler, hcontract, _, ha⟩ := h
  obtain ⟨hread, _⟩ := artifact_contractRecord_eq_ok hne ha
  refine ⟨(Json.str.inj hread.path).symm, fun t ht => ?_, hsources⟩
  rw [hcontract, ← hread.own t ht, textOf_own ht]
  rfl

theorem holdsOwnSource (hkeys : sources.keys.Nodup) (h : IsMade sources listed a) :
    a.HoldsOwnSource := by
  have hne := h.shareable_ne_nil
  have hsources := holdsAll_of_decodeTable h.decodeTable_eq
  obtain ⟨contract, entry, compiler, _, hentry, ha⟩ := h
  exact holdsOwnSource_of_artifact hkeys hentry (artifact_contractRecord_eq_ok hne ha).1 hsources

end IsMade

theorem forall₂_of_artifactsOf {entry : Json.Fields} {compiler : Json} {items : List Json}
    {artifacts : List Artifact} (hentry : (path, .obj entry) ∈ sources)
    (h : artifactsOf path entry compiler (shareable sources) items = .ok artifacts) :
    List.Forall₂ (IsMade sources) (items.map fun c => (path, c)) artifacts := by
  induction items generalizing artifacts with
  | nil =>
    cases h
    exact List.Forall₂.nil
  | cons c items ih =>
    cases c with
    | obj contract =>
      simp only [artifactsOf, Noted.bind_eq_ok_iff] at h
      obtain ⟨a, ha, more, hmore, h⟩ := h
      cases h
      exact List.Forall₂.cons ⟨contract, entry, compiler, rfl, hentry, ha⟩ (ih hmore)
    | _ => cases h

/-- The items of anything but a list are texts. -/
theorem listed_eq_ok {v : Json} {items : List Json} (h : listed v = .ok items) :
    v = .arr items ∨ (∀ others, v ≠ .arr others) ∧ ∃ texts : List String, items = texts.map .str := by
  unfold listed at h
  split at h
  · cases h
    exact Or.inl rfl
  · rename_i s
    cases h
    exact Or.inr ⟨nofun, s.toList.map String.singleton, List.map_map.symm⟩
  · rename_i fs
    cases h
    exact Or.inr ⟨nofun, fs.map Prod.fst, List.map_map.symm⟩
  · rename_i hlist _ _
    split_ifs at h
    cases h
    exact Or.inr ⟨hlist, [], rfl⟩

/-- Where every item is a record, the items are those of a list, or there are none. -/
theorem eq_contractsIn {entry : Json.Fields} {items : List Json} {artifacts : List Artifact}
    (hlisted : listed (Json.valueOf entry "contracts") = .ok items)
    (h : List.Forall₂ (IsMade sources) (items.map fun c => (path, c)) artifacts) :
    items = contractsIn (.obj entry) := by
  unfold contractsIn
  rcases listed_eq_ok hlisted with hlist | ⟨hlist, texts, rfl⟩
  · rw [entriesOrNone, Json.fields?, Option.getD_some, hlist]
  · split
    · rename_i others hothers
      exact absurd hothers (hlist others)
    · cases texts with
      | nil => rfl
      | cons t texts =>
        obtain ⟨_, _, _, _, _, hrecord, _⟩ := exists_right_of_forall₂ h List.mem_cons_self
        cases hrecord

theorem forall₂_of_artifactsOfSources {compiler : Json} {entries : Json.Fields}
    {artifacts : List Artifact} (hentries : ∀ e ∈ entries, e ∈ sources)
    (h : artifactsOfSources compiler (shareable sources) entries = .ok artifacts) :
    List.Forall₂ (IsMade sources) (listedContracts entries) artifacts := by
  induction entries generalizing artifacts with
  | nil =>
    cases h
    exact List.Forall₂.nil
  | cons e entries ih =>
    obtain ⟨he, hrest⟩ := List.forall_mem_cons.mp hentries
    rw [listedContracts, List.flatMap_cons]
    obtain ⟨path, v⟩ := e
    cases v with
    | obj entry =>
      simp only [artifactsOfSources, Noted.bind_eq_ok_iff] at h
      obtain ⟨items, hitems, here, hhere, more, hmore, h⟩ := h
      cases h
      have hmade := forall₂_of_artifactsOf he hhere
      rw [← eq_contractsIn hitems hmade]
      exact List.rel_append hmade (ih hrest hmore)
    | _ => exact ih hrest h

theorem entries_orElse_eq_ok {v : Json} {fs : Json.Fields}
    (h : entries (v.orElse (.obj [])) = .ok fs) : fs = entriesOrNone v := by
  unfold Json.orElse at h
  split_ifs at h with hgiven
  · cases v <;> cases h
    rfl
  · cases h
    cases v with
    | obj fs =>
      cases fs with
      | nil => rfl
      | cons f fs => exact absurd rfl hgiven
    | _ => rfl

theorem forall₂_of_split {fs : Json.Fields} {artifacts : List Artifact}
    (h : split fs = .ok artifacts) :
    List.Forall₂ (IsMade (sourceEntries fs)) (listedContracts (sourceEntries fs)) artifacts := by
  obtain ⟨sources, hsources, h⟩ := Noted.bind_eq_ok_iff.mp h
  obtain rfl : sources = sourceEntries fs := entries_orElse_eq_ok hsources
  exact forall₂_of_artifactsOfSources (fun _ he => he) h

/-- Artifacts that are made of one table of sources share it, if every path comes once in it. -/
theorem sharesSources_of_made {ls : List (String × Json)} {artifacts : List Artifact}
    (hmade : List.Forall₂ (IsMade sources) ls artifacts) (hkeys : sources.keys.Nodup) :
    ∀ a ∈ artifacts, ∀ b ∈ artifacts, a.SharesSources b := by
  intro a ha b hb
  obtain ⟨_, _, ha⟩ := exists_left_of_forall₂ hmade ha
  obtain ⟨_, _, hb⟩ := exists_left_of_forall₂ hmade hb
  have hsources : a.sources = b.sources :=
    Decode.Checked.ok.inj (ha.decodeTable_eq.symm.trans hb.decodeTable_eq)
  have hnodup : a.sources.keys.Nodup := by rwa [keys_of_holdsAll ha.isListed.sources]
  exact .of_holdsOwnSource hsources hnodup (ha.holdsOwnSource hkeys) (hb.holdsOwnSource hkeys)

theorem SplitsInto.of_made {fs : Json.Fields} {artifacts : List Artifact}
    (hmade : List.Forall₂ (IsMade (sourceEntries fs)) (listedContracts (sourceEntries fs)) artifacts)
    (hkeys : (sourceEntries fs).keys.Nodup) : SplitsInto fs artifacts where
  listed := hmade.imp fun _ _ ha => ha.isListed
  shared := sharesSources_of_made hmade hkeys
  viewed := by
    intro a ha b hb v w hv hw
    obtain ⟨_, _, _, _, rfl⟩ := ContractView.ofArtifact_eq_ok_iff.mp hv
    obtain ⟨_, _, _, _, rfl⟩ := ContractView.ofArtifact_eq_ok_iff.mp hw
    have hsame := sharesSources_of_made hmade hkeys a ha b hb
    exact ⟨hsame.lineTables, hsame.trees, hsame.sourceNames⟩

/-- A build is split into the artifacts of the contracts that it lists, and they share its sources. -/
theorem split_splitsInto {fs : Json.Fields} {artifacts : List Artifact}
    (h : split fs = .ok artifacts) (hkeys : (sourceEntries fs).keys.Nodup) :
    SplitsInto fs artifacts :=
  .of_made (forall₂_of_split h) hkeys

/-- Three contracts under two sources; the first one says otherwise of its path and its sources. -/
def threeListed : Json.Fields :=
  [("sources", .obj [
    ("a.sol", .obj [("source", .str "contract A {}"), ("id", .int 1), ("contracts", .arr [
      .obj [("contractName", .str "A"), ("sourcePath", .str "x.sol"), ("sources", .obj [])]])]),
    ("b.sol", .obj [("source", .null), ("legacyAst", .obj [("name", .str "SourceUnit")]),
      ("contracts", .arr [.obj [("contractName", .str "B"), ("source", .str "lost")], .obj []])])])]

theorem threeListed_splitsInto : ∃ artifacts, split threeListed = .ok artifacts ∧
    (sourceEntries threeListed).keys.Nodup ∧ SplitsInto threeListed artifacts ∧
    artifacts.map (fun a => (a.sourcePath, a.name)) = [("a.sol", "A"), ("b.sol", "B"), ("b.sol", "")] := by
  have hkeys : (sourceEntries threeListed).keys.Nodup := by decide
  exact ⟨_, rfl, hkeys, split_splitsInto rfl hkeys, rfl⟩

/-- The source table of a document has every path once. -/
theorem nodup_keys_sourceEntries {maxDepth : Nat} {s : String} {fs : Json.Fields}
    (h : Json.read maxDepth s = .ok (.obj fs)) : (sourceEntries fs).keys.Nodup := by
  cases Json.keyedOnce_of_read h with
  | obj _ hfields =>
    unfold sourceEntries Json.valueOf
    cases hsources : Table.get? fs "sources" with
    | none => exact List.nodup_nil
    | some v =>
      obtain ⟨⟨_, w⟩, hw, rfl⟩ := Option.map_eq_some_iff.mp hsources
      have hv : w.KeyedOnce := hfields _ (List.mem_of_find?_eq_some hw)
      cases hv with
      | obj hkeys _ => exact hkeys
      | _ => exact List.nodup_nil

/-- Builds that are read need no more than to be split. -/
theorem splitsInto_of_read {maxDepth : Nat} {s : String} {fs : Json.Fields} {artifacts : List Artifact}
    (hread : Json.read maxDepth s = .ok (.obj fs)) (h : split fs = .ok artifacts) :
    SplitsInto fs artifacts :=
  .of_made (forall₂_of_split h) (nodup_keys_sourceEntries hread)

end Build
end AuditReport
