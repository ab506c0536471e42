import AuditReport.Proofs.SourceMap.WrittenRange
import AuditReport.Proofs.Syntax.SearchedTree

/-!
# Bytecode locations and the trees of other sources

A bytecode location is searched in the tree of the source that its entry names, or else in one under a
path with the same base name. So the trees of other sources make no difference to it exactly when its
source has a tree or no other source shares its base name; otherwise they can be chosen for either
answer.
-/
namespace AuditReport

namespace Artifact

open Syntax (Node)

def withoutTrees (e : String × SourceFile) : String × SourceFile :=
  (e.1, { e.2 with ast := none, legacyAst := none })

/-- Equal but for the syntax trees of sources other than the one at a path. -/
structure EqualUpToTrees (path : String) (a b : Artifact) : Prop where
  rest : b = { a with sources := b.sources }
  /-- The same paths in the same order, with the same texts and ids. -/
  texts : b.sources.map withoutTrees = a.sources.map withoutTrees
  own : (b.sources.filter fun e => e.1 == path) = a.sources.filter fun e => e.1 == path

namespace EqualUpToTrees

variable {path : String} {a b : Artifact}

/-- What does not look at trees is the same of all sources. -/
theorem map_sources_eq (h : EqualUpToTrees path a b) {β : Type} {f : String × SourceFile → β}
    (hf : ∀ e, f (withoutTrees e) = f e) : b.sources.map f = a.sources.map f := by
  have hmap : ∀ sources : Table SourceFile, sources.map f = (sources.map withoutTrees).map f := by
    intro sources
    rw [List.map_map]
    exact List.map_congr_left fun e _ => (hf e).symm
  rw [hmap, h.texts, ← hmap]

theorem lineTables_eq (h : EqualUpToTrees path a b) : b.lineTables = a.lineTables := by
  rw [lineTables, lineTables, h.rest]
  exact h.map_sources_eq (f := fun e => (e.1, LineTable.ofText (a.textOf e.1 e.2))) fun _ => rfl

theorem sourceNames_eq (h : EqualUpToTrees path a b) : b.sourceNames = a.sourceNames := by
  have hmap : ∀ c : Artifact, c.sourceNames =
      ((c.sources.map withoutTrees).mergeSort fun e f => idOrder e.2 f.2).map (·.1) := by
    intro c
    -- The order looks at ids alone, which are still there without the trees.
    rw [sourceNames, ← List.map_mergeSort (r := fun e f => idOrder e.2 f.2) fun _ _ _ _ => rfl,
      List.map_map]
    rfl
  rw [hmap, hmap, h.texts]

theorem ofArtifact_eq (h : EqualUpToTrees path a b) {v : ContractView}
    (hv : ContractView.ofArtifact a = .ok v) :
    ContractView.ofArtifact b = .ok ⟨b, v.resolver, b.trees⟩ := by
  obtain ⟨instructions, entries, hcode, hmap, rfl⟩ := ContractView.ofArtifact_eq_ok_iff.mp hv
  apply ContractView.ofArtifact_eq_ok_iff.mpr
  refine ⟨instructions, entries, ?_, ?_, ?_⟩
  · rw [h.rest]
    exact hcode
  · rw [h.rest]
    exact hmap
  · rw [h.lineTables_eq, h.sourceNames_eq]

/-- Trees under paths that only the source itself can have are the same. -/
theorem firstWhere_trees_eq (h : EqualUpToTrees path a b) {p : String → Bool}
    (hp : ∀ e ∈ a.sources, p e.1 = true → e.1 = path) :
    b.trees.firstWhere p = a.trees.firstWhere p := by
  have hb : ∀ e ∈ b.sources, p e.1 = true → e.1 = path := by
    intro e he hpe
    have hmem : e.1 ∈ b.sources.map (·.1) := List.mem_map_of_mem he
    rw [h.map_sources_eq fun _ => rfl] at hmem
    obtain ⟨d, hd, hde⟩ := List.mem_map.mp hmem
    rw [← hde] at hpe ⊢
    exact hp d hd hpe
  have hown : ∀ sources : Table SourceFile, (∀ e ∈ sources, p e.1 = true → e.1 = path) →
      (sources.filter fun e => p e.1) =
        (sources.filter fun e => e.1 == path).filter fun e => p e.1 := by
    intro sources hsources
    rw [List.filter_filter]
    apply List.filter_congr
    intro e he
    cases hpe : p e.1 with
    | false => rfl
    | true => simp [hsources e he hpe]
  have hpath : b.sourcePath = a.sourcePath := by rw [h.rest]
  have htree : b.tree = a.tree := by rw [h.rest]; rfl
  rw [firstWhere_trees, firstWhere_trees, hown _ hp, hown _ hb, h.own, hpath, htree]

/-- With a tree of its own or a base name of its own, a source is served by the same tree. -/
theorem byName?_trees_eq (h : EqualUpToTrees path a b)
    (hown : (a.trees.firstWhere (· == path)).isSome = true ∨
      ∀ s ∈ a.sources, Text.baseName s.1 = Text.baseName path → s.1 = path) :
    Table.byName? b.trees path = Table.byName? a.trees path := by
  rw [Table.byName?_eq, Table.byName?_eq, h.firstWhere_trees_eq fun _ _ => beq_iff_eq.mp]
  obtain hsome | hunique := hown
  · obtain ⟨n, hn⟩ := Option.isSome_iff_exists.mp hsome
    rw [hn, Option.some_or, Option.some_or]
  · have hbase := h.firstWhere_trees_eq (p := fun key => Text.baseName key == Text.baseName path)
      fun s hs hs' => hunique s hs (beq_iff_eq.mp hs')
    rw [hbase]

end EqualUpToTrees

def replaceTree (path : String) (tree : Json.Fields) (e : String × SourceFile) :
    String × SourceFile :=
  if e.1 = path then e else (e.1, { e.2 with ast := some tree, legacyAst := none })

def withTree (a : Artifact) (path : String) (tree : Json.Fields) : Artifact :=
  { a with sources := a.sources.map (replaceTree path tree) }

section WithTree

variable {a : Artifact} {path : String} {tree : Json.Fields}

theorem fst_replaceTree (e : String × SourceFile) : (replaceTree path tree e).1 = e.1 := by
  unfold replaceTree
  split <;> rfl

theorem treeOf?_replaceTree {e : String × SourceFile} (he : e.1 ≠ path) :
    treeOf? (replaceTree path tree e).2 = root? (some tree) := by
  rw [replaceTree, if_neg he]
  rfl

theorem equalUpToTrees_withTree (a : Artifact) (path : String) (tree : Json.Fields) :
    EqualUpToTrees path a (a.withTree path tree) where
  rest := rfl
  texts := by
    rw [withTree, List.map_map]
    apply List.map_congr_left
    intro e _
    by_cases he : e.1 = path <;> simp [withoutTrees, replaceTree, he]
  own := by
    have hkey : ((fun e : String × SourceFile => e.1 == path) ∘ replaceTree path tree) =
        fun e => e.1 == path := by
      funext e
      rw [Function.comp_apply, fst_replaceTree]
    have hself : ∀ e ∈ a.sources.filter fun e => e.1 == path, replaceTree path tree e = e := by
      intro e he
      exact if_pos (beq_iff_eq.mp (List.mem_filter.mp he).2)
    rw [withTree, List.filter_map, hkey, List.map_congr_left hself]
    exact List.map_id' _

theorem findSome?_eq_some_of_forall {α β : Type} {f : α → Option β} {as : List α} {b : β}
    (hex : ∃ a ∈ as, f a = some b) (hall : ∀ a ∈ as, ∀ c, f a = some c → c = b) :
    as.findSome? f = some b := by
  cases hfirst : as.findSome? f with
  | none =>
    obtain ⟨a, ha, hb⟩ := hex
    rw [List.findSome?_eq_none_iff.mp hfirst a ha] at hb
    cases hb
  | some c =>
    obtain ⟨a, ha, hc⟩ := List.exists_of_findSome?_eq_some hfirst
    rw [hall a ha c hc]

/-- A tree that all other sources are given is found for a source without one, if another source has
its base name. -/
theorem byName?_withTree {n : Node} (hn : root? (some tree) = some n)
    (hnone : a.trees.firstWhere (· == path) = none) {s : String × SourceFile} (hs : s ∈ a.sources)
    (hbase : Text.baseName s.1 = Text.baseName path) (hne : s.1 ≠ path) :
    Table.byName? (a.withTree path tree).trees path = some n := by
  have hfound : (((a.withTree path tree).sources.filter fun e =>
      Text.baseName e.1 == Text.baseName path).findSome? fun e => treeOf? e.2) = some n := by
    apply findSome?_eq_some_of_forall
    · refine ⟨replaceTree path tree s, List.mem_filter.mpr ⟨List.mem_map_of_mem hs, ?_⟩, ?_⟩
      · rw [fst_replaceTree, hbase]
        exact beq_self_eq_true _
      · rw [treeOf?_replaceTree hne, hn]
    · intro d hd m hm
      obtain ⟨e, he, rfl⟩ := List.mem_map.mp (List.mem_filter.mp hd).1
      by_cases hpath : e.1 = path
      · rw [replaceTree, if_pos hpath, treeOf?_eq_none hnone he hpath] at hm
        cases hm
      · rw [treeOf?_replaceTree hpath, hn] at hm
        exact (Option.some.inj hm).symm
  have hexact := (equalUpToTrees_withTree a path tree).firstWhere_trees_eq
    (p := fun key => key == path) fun _ _ => beq_iff_eq.mp
  rw [Table.byName?_eq, hexact, hnone, firstWhere_trees, hfound]
  rfl

end WithTree

def openArray (src : String) : Json.Fields :=
  [("nodeType", .str Syntax.variableDeclaration), ("src", .str src), ("stateVariable", .bool true),
    ("visibility", .str "public"), ("typeName", .obj [("nodeType", .str Syntax.arrayTypeName)])]

theorem exists_openArray {e : SourceMap.Entry} (he : e.Written) :
    ∃ src n, root? (some (openArray src)) = some n ∧ n.hasOpenArrayAt e = .ok true := by
  obtain ⟨src, hsrc⟩ := he.exists_src
  refine ⟨src, _, rfl, ?_⟩
  have hencloses : (⟨e.start, e.length⟩ : Syntax.Range).encloses e.start e.length = true := by
    simp [Syntax.Range.encloses]
  exact Node.hasOpenArrayAt_of_root hsrc rfl hencloses

theorem exists_bare (e : SourceMap.Entry) :
    ∃ n, root? (some [("nodeType", .str "SourceUnit")]) = some n ∧
      n.hasOpenArrayAt e = .ok false := by
  refine ⟨_, rfl, ?_⟩
  rw [Node.hasOpenArrayAt, Node.findEnclosing_eq_search]
  rfl

end Artifact

theorem Resolver.mem_entries_of_entryIn {r : Resolver} {location : String} {e : SourceMap.Entry}
    (he : (r.entryIn location .bytecode).outcome = .ok (some e)) : e ∈ r.entries := by
  obtain ⟨offset, _, he⟩ := Noted.outcome_bind_eq_ok_iff.mp he
  cases hfind : r.instructions.find? offset with
  | none =>
    simp only [hfind] at he
    cases he
  | some i =>
    simp only [hfind] at he
    obtain ⟨d, hd, he⟩ := Noted.outcome_bind_eq_ok_iff.mp he
    cases he
    rw [Noted.outcome_lift] at hd
    exact SourceMap.mem_of_entryAt hd

namespace ContractView

open SourceMap (Format)

variable {a : Artifact} {v : ContractView} {l : Location} {format name : Option String}
  {e : SourceMap.Entry} {path : String}

/-- What it is that only the tree of the source at a path decides whether a location there can be
ignored. -/
structure SearchesOwnTree (a : Artifact) (v : ContractView) (path : String) (l : Location)
    (format name : Option String) : Prop where
  /-- Trees of other sources make no difference. -/
  unaffected : ∀ b, a.EqualUpToTrees path b → ∃ w, ofArtifact b = .ok w ∧
    (w.isIgnorable l format name).outcome = (v.isIgnorable l format name).outcome
  /-- Without a tree there is nothing to ignore. -/
  treeless : Table.get? v.trees path = none → (v.isIgnorable l format name).outcome = .ok false

theorem written_of_entryIn (hv : ofArtifact a = .ok v) {location : String}
    (he : (v.resolver.entryIn location .bytecode).outcome = .ok (some e)) : e.Written := by
  obtain ⟨instructions, entries, _, hentries, rfl⟩ := ofArtifact_eq_ok_iff.mp hv
  exact SourceMap.decode_written hentries _ (Resolver.mem_entries_of_entryIn he)

section Location

variable (hv : ofArtifact a = .ok v)
  (hformat : (Text.orElse l.format format).bind Format.ofName? = some .bytecode)
  (he : (v.resolver.entryIn l.sourceMap .bytecode).outcome = .ok (some e))
  (hpath : v.resolver.sourceName? e = some path)

include hv hformat he hpath

theorem outcome_of_equalUpToTrees {b : Artifact} (h : a.EqualUpToTrees path b)
    (name : Option String) : ∃ w, ofArtifact b = .ok w ∧
      (w.isIgnorable l format name).outcome = Syntax.answer b.trees e path :=
  ⟨_, h.ofArtifact_eq hv,
    outcome_isIgnorable_bytecode (v := ⟨b, v.resolver, b.trees⟩) hformat he hpath name⟩

theorem outcome_eq (name : Option String) :
    (v.isIgnorable l format name).outcome = Syntax.answer a.trees e path := by
  obtain ⟨_, _, _, _, rfl⟩ := ofArtifact_eq_ok_iff.mp hv
  exact outcome_isIgnorable_bytecode hformat he hpath name

theorem unaffected_of_own (hown : e.hasSource = true →
      (a.trees.firstWhere (· == path)).isSome = true ∨
        ∀ s ∈ a.sources, Text.baseName s.1 = Text.baseName path → s.1 = path)
    {b : Artifact} (hb : a.EqualUpToTrees path b) : ∃ w, ofArtifact b = .ok w ∧
      (w.isIgnorable l format name).outcome = (v.isIgnorable l format name).outcome := by
  obtain ⟨w, hw, hanswer⟩ := outcome_of_equalUpToTrees hv hformat he hpath hb name
  refine ⟨w, hw, ?_⟩
  rw [hanswer, outcome_eq hv hformat he hpath, Syntax.answer, Syntax.answer]
  split
  · rename_i hsource
    rw [hb.byName?_trees_eq (hown hsource)]
  · rfl

/-- Where a source without a tree shares its base name, the answer can be changed through the trees of
the others. -/
theorem eq_of_baseName_eq (hsource : e.hasSource = true)
    (hnone : a.trees.firstWhere (· == path) = none)
    (h : SearchesOwnTree a v path l format name) {s : String × SourceFile} (hs : s ∈ a.sources)
    (hbase : Text.baseName s.1 = Text.baseName path) : s.1 = path := by
  by_contra hne
  have hanswer : ∀ tree n, Artifact.root? (some tree) = some n →
      (v.isIgnorable l format name).outcome = n.hasOpenArrayAt e := by
    intro tree n hn
    have hequal := Artifact.equalUpToTrees_withTree a path tree
    obtain ⟨w, hw, hsame⟩ := h.unaffected _ hequal
    obtain ⟨u, hu, hanswer⟩ := outcome_of_equalUpToTrees hv hformat he hpath hequal name
    cases hw.symm.trans hu
    rw [← hsame, hanswer, Syntax.answer, if_pos hsource,
      Artifact.byName?_withTree hn hnone hs hbase hne]
    rfl
  -- All other sources are given an array around the entry, then a tree with nothing in it.
  obtain ⟨src, n, hn, htrue⟩ := Artifact.exists_openArray (written_of_entryIn hv he)
  obtain ⟨m, hm, hfalse⟩ := Artifact.exists_bare e
  have htrue' := (hanswer _ n hn).trans htrue
  rw [hanswer _ m hm, hfalse] at htrue'
  cases htrue'

end Location

/-- Only its own tree is searched for a source exactly when it has one, or when nothing else has its
base name, but perhaps a tree of the artifact in which there is nothing to ignore. -/
theorem searchesOwnTree_iff (hv : ofArtifact a = .ok v)
    (hformat : (Text.orElse l.format format).bind Format.ofName? = some .bytecode)
    (he : (v.resolver.entryIn l.sourceMap .bytecode).outcome = .ok (some e))
    (hpath : v.resolver.sourceName? e = some path) :
    SearchesOwnTree a v path l format name ↔ (e.hasSource = true →
      (Table.get? v.trees path).isSome = true ∨
        (∀ s ∈ a.sources, Text.baseName s.1 = Text.baseName path → s.1 = path) ∧
        ∀ tree, Artifact.root? a.tree = some tree →
          Text.baseName a.sourcePath = Text.baseName path →
          tree.hasOpenArrayAt e = .ok false) := by
  have hget : Table.get? v.trees path = a.trees.firstWhere (· == path) := by
    obtain ⟨_, _, _, _, rfl⟩ := ofArtifact_eq_ok_iff.mp hv
    rfl
  have hself := outcome_eq hv hformat he hpath name
  rw [hget]
  constructor
  · intro h hsource
    cases hnone : a.trees.firstWhere (· == path) with
    | some n => exact Or.inl rfl
    | none =>
      have hunique : ∀ s ∈ a.sources, Text.baseName s.1 = Text.baseName path → s.1 = path :=
        fun _ hs hbase => eq_of_baseName_eq hv hformat he hpath hsource hnone h hs hbase
      have hfalse := h.treeless (hget.trans hnone)
      rw [hself] at hfalse
      exact Or.inr ⟨hunique, (Artifact.answer_of_unique hnone hunique hsource).mp hfalse⟩
  · intro h
    refine ⟨fun b hb => ?_, fun hnone => ?_⟩
    · exact unaffected_of_own hv hformat he hpath (fun hsource => (h hsource).imp_right And.left) hb
    · rw [hget] at hnone
      rw [hself]
      cases hsource : e.hasSource with
      | false =>
        rw [Syntax.answer, hsource]
        rfl
      | true =>
        obtain hsome | ⟨hunique, hmain⟩ := h hsource
        · rw [hnone] at hsome
          cases hsome
        · exact (Artifact.answer_of_unique hnone hunique hsource).mpr hmain

/-- Two sources with one base name, of which the first has a tree, and code with an instruction from
each. -/
def namesakes : Artifact where
  name := "T"
  bytecode := ""
  deployedBytecode := "0x0000"
  sourceMap := ""
  deployedSourceMap := "0:20:0;0:20:1"
  sourcePath := "b/T.sol"
  source := "uint public total=0;"
  ast := none
  legacyAst := none
  compilerVersion := none
  sources := [("a/T.sol", ⟨"uint[] public items;", some (Artifact.openArray "0:20:0"), none, some 0⟩),
    ("b/T.sol", ⟨"uint public total=0;", none, none, some 1⟩)]

def namesakesView : ContractView where
  artifact := namesakes
  resolver := ⟨.ofBytes [0, 0], [⟨0, 20, 0, .regular⟩, ⟨0, 20, 1, .regular⟩], namesakes.lineTables,
    ["a/T.sol", "b/T.sol"]⟩
  trees := namesakes.trees

theorem ofArtifact_namesakes : ofArtifact namesakes = .ok namesakesView :=
  ofArtifact_of_pairwise rfl rfl (by decide)

def atOffset (offset : String) : Location :=
  ⟨offset, none, none, []⟩

theorem format_atOffset (offset : String) :
    (Text.orElse (atOffset offset).format (some Format.bytecode.name)).bind Format.ofName? =
      some .bytecode :=
  rfl

theorem entryIn_atOffset_zero :
    (namesakesView.resolver.entryIn (atOffset "0").sourceMap .bytecode).outcome =
      .ok (some ⟨0, 20, 0, .regular⟩) :=
  rfl

theorem entryIn_atOffset_one :
    (namesakesView.resolver.entryIn (atOffset "1").sourceMap .bytecode).outcome =
      .ok (some ⟨0, 20, 1, .regular⟩) :=
  rfl

theorem sourceName?_namesakes_one :
    namesakesView.resolver.sourceName? ⟨0, 20, 1, .regular⟩ = some "b/T.sol" :=
  rfl

/-- The first source has a tree of its own; for the second, that of the first is searched. -/
theorem namesakes_searchesOwnTree :
    SearchesOwnTree namesakes namesakesView "a/T.sol" (atOffset "0")
      (some Format.bytecode.name) none ∧
    ¬ SearchesOwnTree namesakes namesakesView "b/T.sol" (atOffset "1")
      (some Format.bytecode.name) none := by
  constructor
  · apply (searchesOwnTree_iff ofArtifact_namesakes (format_atOffset "0")
      entryIn_atOffset_zero rfl).mpr
    intro _
    exact Or.inl rfl
  · intro h
    obtain hsome | ⟨hunique, _⟩ := (searchesOwnTree_iff ofArtifact_namesakes (format_atOffset "1")
      entryIn_atOffset_one sourceName?_namesakes_one).mp h rfl
    · cases hsome
    · have hsame := hunique ("a/T.sol", _) List.mem_cons_self (by decide)
      exact absurd hsame (by decide)

/-- A location in a source without a tree can be ignored on account of a tree of another source. -/
theorem not_forall_searchesOwnTree : ¬ ∀ (a : Artifact) (v : ContractView) (l : Location)
    (format name : Option String) (e : SourceMap.Entry) (path : String), ofArtifact a = .ok v →
      (Text.orElse l.format format).bind Format.ofName? = some .bytecode →
      (v.resolver.entryIn l.sourceMap .bytecode).outcome = .ok (some e) →
      v.resolver.sourceName? e = some path → SearchesOwnTree a v path l format name := by
  intro h
  have hignorable : (namesakesView.isIgnorable (atOffset "1") (some Format.bytecode.name)
      none).outcome = .ok true := by
    rw [outcome_isIgnorable_bytecode (format_atOffset "1") entryIn_atOffset_one
      sourceName?_namesakes_one, Syntax.answer]
    exact Syntax.Node.hasOpenArrayAt_of_root (r := ⟨0, 20⟩) rfl rfl rfl
  have hnot := (h namesakes namesakesView _ _ none _ _ ofArtifact_namesakes (format_atOffset "1")
    entryIn_atOffset_one sourceName?_namesakes_one).treeless rfl
  rw [hignorable] at hnot
  cases hnot

end ContractView
end AuditReport
