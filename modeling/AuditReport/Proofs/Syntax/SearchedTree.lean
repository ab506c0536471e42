import AuditReport.Contract.View
import AuditReport.Proofs.Noted

/-!
# The tree that is searched for a location

A location is searched in the tree under the path of its source, and where there is none, in the first
tree under a path with the same base name. The trees are those of the sources, in the order of the
source table, and last that of the artifact, unless its source has one.
-/
namespace AuditReport

namespace Table

variable {α : Type}

def firstWhere (t : Table α) (p : String → Bool) : Option α :=
  (t.find? fun e => p e.1).map (·.2)

theorem byName?_eq (t : Table α) (name : String) :
    byName? t name = (t.firstWhere (· == name)).or
      (t.firstWhere fun key => Text.baseName key == Text.baseName name) := by
  have hexact : get? t name = t.firstWhere (· == name) := rfl
  rw [byName?, hexact]
  cases t.firstWhere (· == name) <;> rfl

theorem exists_mem_of_byName? {t : Table α} {name : String} {x : α} (h : byName? t name = some x) :
    ∃ e ∈ t, e.2 = x := by
  rw [byName?_eq, Option.or_eq_some_iff] at h
  rcases h with h | ⟨_, h⟩
  all_goals
    obtain ⟨e, he, rfl⟩ := Option.map_eq_some_iff.mp h
    exact ⟨e, List.mem_of_find?_eq_some he, rfl⟩

theorem firstWhere_append (t s : Table α) (p : String → Bool) :
    firstWhere (t ++ s) p = (t.firstWhere p).or (s.firstWhere p) := by
  rw [firstWhere, List.find?_append]
  unfold firstWhere
  cases t.find? fun e => p e.1 <;> rfl

theorem firstWhere_putNew (t : Table α) (key : String) (a : α) (p : String → Bool) :
    firstWhere (putNew t key a) p = (t.firstWhere p).or (if p key then some a else none) := by
  unfold putNew
  split
  · rename_i hkey
    -- Where the key passes the test, so does the entry that has it already.
    obtain ⟨e, he, hek⟩ := List.any_eq_true.mp hkey
    cases hfirst : t.firstWhere p with
    | some b => rfl
    | none =>
      have hnone := List.find?_eq_none.mp (Option.map_eq_none_iff.mp hfirst) e he
      rw [beq_iff_eq.mp hek] at hnone
      rw [if_neg hnone]
      rfl
  · rw [firstWhere_append]
    congr 1
    by_cases hp : p key <;> simp [firstWhere, hp]

end Table

namespace Syntax

def Node.hasOpenArrayAt (tree : Node) (e : SourceMap.Entry) : Except Fault Bool := do
  match ← tree.findEnclosing variableDeclaration e.start e.length with
  | none => return false
  | some n => n.isOpenArray

theorem Node.hasOpenArrayAt_of_root {tree : Node} {e : SourceMap.Entry} {r : Range}
    (hrange : tree.range = some r) (hkind : tree.kind = some variableDeclaration)
    (hencloses : r.encloses e.start e.length = true) :
    tree.hasOpenArrayAt e = tree.isOpenArray := by
  have hstep : tree.step variableDeclaration e.start e.length = .take := by
    rw [Node.step, hrange]
    simp only [hencloses, hkind, if_true]
  rw [hasOpenArrayAt, findEnclosing_eq_search, search_eq, hstep]
  rfl

def answer (trees : Table Node) (e : SourceMap.Entry) (source : String) : Except Fault Bool :=
  if e.hasSource then (Table.byName? trees source).elim (.ok false) (·.hasOpenArrayAt e)
  else .ok false

theorem outcome_isIgnorable (trees : Table Node) (e : SourceMap.Entry) (source : String) :
    (isIgnorable trees e source).outcome = answer trees e source := by
  rw [isIgnorable, answer]
  split
  · cases Table.byName? trees source with
    | none => rfl
    | some tree =>
      simp only [Option.elim_some, Noted.outcome_bind, Noted.outcome_lift, Node.hasOpenArrayAt]
      cases tree.findEnclosing variableDeclaration e.start e.length with
      | error f => rfl
      | ok found =>
        cases found with
        | none => rfl
        | some n =>
          change (do if ← n.isOpenArray then _ else _ : Noted Bool).outcome = n.isOpenArray
          rw [Noted.outcome_bind, Noted.outcome_lift]
          cases n.isOpenArray with
          | error f => rfl
          | ok b => cases b <;> rfl
  · rfl

end Syntax

namespace Artifact

open Syntax (Node)

def treeOf? (s : SourceFile) : Option Node :=
  root? s.tree

theorem firstWhere_ownTrees (sources : Table SourceFile) (p : String → Bool) :
    Table.firstWhere (sources.filterMap fun e => (treeOf? e.2).map fun n => (e.1, n)) p =
      (sources.filter fun e => p e.1).findSome? fun e => treeOf? e.2 := by
  induction sources with
  | nil => rfl
  | cons e sources ih =>
    cases hn : treeOf? e.2 <;> by_cases hp : p e.1 <;>
      simp [Table.firstWhere, hn, hp] <;> simpa [Table.firstWhere] using ih

/-- The first tree under a path that passes a test: that of a source, else that of the artifact. -/
theorem firstWhere_trees (a : Artifact) (p : String → Bool) :
    a.trees.firstWhere p = ((a.sources.filter fun e => p e.1).findSome? fun e => treeOf? e.2).or
      (if p a.sourcePath then root? a.tree else none) := by
  rw [← firstWhere_ownTrees]
  unfold trees
  cases root? a.tree with
  | none => simp [treeOf?]
  | some n => exact Table.firstWhere_putNew _ _ _ _

section Treeless

variable {a : Artifact} {path : String}

theorem treeOf?_eq_none (hnone : a.trees.firstWhere (· == path) = none)
    {s : String × SourceFile} (hs : s ∈ a.sources) (hpath : s.1 = path) : treeOf? s.2 = none := by
  rw [firstWhere_trees, Option.or_eq_none_iff] at hnone
  exact List.findSome?_eq_none_iff.mp hnone.1 s (List.mem_filter.mpr ⟨hs, beq_iff_eq.mpr hpath⟩)

/-- Where a source has no tree and no other one shares its base name, only the tree of the artifact
can be found for it. -/
theorem byName?_trees_of_unique (hnone : a.trees.firstWhere (· == path) = none)
    (hunique : ∀ s ∈ a.sources, Text.baseName s.1 = Text.baseName path → s.1 = path) :
    Table.byName? a.trees path =
      if Text.baseName a.sourcePath = Text.baseName path then root? a.tree else none := by
  have hown : ((a.sources.filter fun s => Text.baseName s.1 == Text.baseName path).findSome?
      fun s => treeOf? s.2) = none := by
    apply List.findSome?_eq_none_iff.mpr
    intro s hs
    obtain ⟨hs, hbase⟩ := List.mem_filter.mp hs
    exact treeOf?_eq_none hnone hs (hunique s hs (beq_iff_eq.mp hbase))
  rw [Table.byName?_eq, hnone, firstWhere_trees, hown]
  simp only [Option.none_or, beq_iff_eq]

theorem answer_of_unique (hnone : a.trees.firstWhere (· == path) = none)
    (hunique : ∀ s ∈ a.sources, Text.baseName s.1 = Text.baseName path → s.1 = path)
    {e : SourceMap.Entry} (hsource : e.hasSource = true) :
    Syntax.answer a.trees e path = .ok false ↔ ∀ tree, root? a.tree = some tree →
      Text.baseName a.sourcePath = Text.baseName path → tree.hasOpenArrayAt e = .ok false := by
  rw [Syntax.answer, if_pos hsource, byName?_trees_of_unique hnone hunique]
  by_cases hbase : Text.baseName a.sourcePath = Text.baseName path
  · rw [if_pos hbase]
    cases root? a.tree with
    | none => simp
    | some tree => simp [hbase]
  · simp [hbase]

end Treeless
end Artifact

namespace ContractView

open SourceMap (Format)

theorem ofArtifact_eq_ok_iff {a : Artifact} {v : ContractView} : ofArtifact a = .ok v ↔
    ∃ instructions entries,
      Bytecode.InstructionTable.ofHex "deployedBytecode" a.deployedBytecode = .ok instructions ∧
      SourceMap.decode a.deployedSourceMap = .ok entries ∧
      v = ⟨a, ⟨instructions, entries, a.lineTables, a.sourceNames⟩, a.trees⟩ := by
  constructor
  · intro h
    obtain ⟨instructions, hinstructions, h⟩ := Noted.bind_eq_ok_iff.mp h
    obtain ⟨entries, hentries, h⟩ := Noted.bind_eq_ok_iff.mp h
    exact ⟨instructions, entries, hinstructions, hentries, (Except.ok.inj h).symm⟩
  · rintro ⟨instructions, entries, hinstructions, hentries, rfl⟩
    rw [ofArtifact, hinstructions, hentries]
    rfl

/-- Sources in the order of their ids are counted as they stand. -/
theorem ofArtifact_of_pairwise {a : Artifact} {code : List UInt8} {entries : List SourceMap.Entry}
    (hcode : Bytecode.decode "deployedBytecode" a.deployedBytecode = .ok code)
    (hentries : SourceMap.decode a.deployedSourceMap = .ok entries)
    (hsorted : a.sources.Pairwise fun e f => Artifact.idOrder e.2 f.2 = true) :
    ofArtifact a = .ok ⟨a, ⟨.ofBytes code, entries, a.lineTables, a.sources.map (·.1)⟩, a.trees⟩ := by
  have hnames : a.sourceNames = a.sources.map (·.1) := by
    rw [Artifact.sourceNames, List.mergeSort_of_pairwise hsorted]
  rw [ofArtifact, Bytecode.InstructionTable.ofHex, hcode, hentries, hnames]
  rfl

section Answer

variable {v : ContractView} {kind : Format} {format name : Option String} {e : SourceMap.Entry}
  {path : String}

theorem outcome_isIgnorableAt {location : String} (hformat : format.bind Format.ofName? = some kind)
    (he : (v.resolver.entryIn location kind).outcome = .ok (some e))
    (hsearched : v.searched kind e name = some path) :
    (v.isIgnorableAt location format name).outcome = Syntax.answer v.trees e path := by
  rw [isIgnorableAt, hformat, ← Syntax.outcome_isIgnorable]
  simp only [Noted.outcome_bind, he]
  simp only [bind, Except.bind, hsearched]

/-- A bytecode location is answered from the source that its entry names, whatever source the finding
is attributed to. -/
theorem outcome_isIgnorable_bytecode {l : Location}
    (hformat : (Text.orElse l.format format).bind Format.ofName? = some .bytecode)
    (he : (v.resolver.entryIn l.sourceMap .bytecode).outcome = .ok (some e))
    (hpath : v.resolver.sourceName? e = some path) (name : Option String) :
    (v.isIgnorable l format name).outcome = Syntax.answer v.trees e path :=
  outcome_isIgnorableAt hformat he hpath

end Answer

end ContractView
end AuditReport
