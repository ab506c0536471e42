import AuditReport.Proofs.Contract.JobFaults
import AuditReport.Proofs.Syntax.ScalarChildren

/-!
# Values of any content in the place of syntax trees

Whatever is given for a syntax tree, parts of it that are of no use count as missing, and a search for an
open array comes to an answer; so no tree keeps a contract from being reported on. This is so exactly if
no legacy tree has a number other than zero, or `true`, for the children of an object.
-/
namespace AuditReport

namespace Syntax

def treesOf (offered : Table Json) : Table Node :=
  offered.filterMap fun t => (Node.ofRoot? t.2).map fun n => (t.1, n)

/-- A node is read from an object in either schema, and what is of no use in the object is left out. -/
structure ReadsLeniently : Prop where
  rooted : ∀ v n, Node.ofRoot? v = some n ↔ ∃ fs, v = .obj fs ∧
    ((∃ s, Json.valueOf fs "nodeType" = .str s) ∧ n = .ofCompact fs ∨
      LegacyRoot fs ∧ n = .ofLegacy fs)
  ranged : ∀ fs r, ((Node.ofCompact fs).range = some r ↔
      ∃ s, Json.valueOf fs "src" = .str s ∧ WritesRange s r) ∧
    ((Node.ofLegacy fs).range = some r ↔ ∃ s, Json.valueOf fs "src" = .str s ∧ WritesRange s r)
  /-- Without an object of attributes, a legacy node has no properties. -/
  unattributed : ∀ fs, (∀ attributes, Json.valueOf fs "attributes" ≠ .obj attributes) →
    (Node.ofLegacy fs).label = labelOf fs [] "name"
  /-- Without an object for its type, a compact node declares none. -/
  untyped : ∀ fs, (∀ type, Json.valueOf fs "typeName" ≠ .obj type) →
    (Node.ofCompact fs).declaredKind = .ok none

end Syntax

open Syntax

/-- What is told of any values that are offered as trees: all of them can be searched, and an answer is
found for every entry and every source. -/
structure ResolvesDoubt (offered : Table Json) : Prop where
  lenient : ReadsLeniently
  childless : ∀ t ∈ offered, ∀ fs p, t.2 = .obj fs → LegacyRoot fs → Reaches fs p →
    (∀ items, Json.valueOf p "children" ≠ .arr items) → (Node.ofLegacy p).children = .ok []
  found : ∀ t ∈ treesOf offered, ∀ kind start length,
    ∃ n, t.2.findEnclosing kind start length = .ok n
  answered : ∀ e source, ∃ b, (isIgnorable (treesOf offered) e source).outcome = .ok b
  /-- Work on a contract with these trees, or some of them, is not cut off by one. -/
  reported : ∀ (j : Job) (config : ReportConfig), (∀ t ∈ j.artifact.trees, t ∈ treesOf offered) →
    j.outcome config ≠ .error (.defect .notIterable)

namespace Syntax

theorem str_of_text?_isSome {v : Json} : v.text?.isSome = true ↔ ∃ s, v = .str s := by
  cases v <;> simp [Json.text?]

theorem legacyRoot_iff {fs : Json.Fields} : LegacyRoot fs ↔
    ¬ (compactLabel fs).kind.isSome = true ∧ ((legacyLabel fs).kind.isSome &&
      (Table.has fs "children" || Table.has fs "attributes")) = true := by
  have hhas : ∀ key, Table.has fs key = true ↔ key ∈ Table.keys fs := by
    intro key
    simp [Table.has, Table.keys]
  have hcompact : (compactLabel fs).kind.isSome = true ↔ ∃ s, Json.valueOf fs "nodeType" = .str s :=
    str_of_text?_isSome
  have hlegacy : (legacyLabel fs).kind.isSome = true ↔ ∃ s, Json.valueOf fs "name" = .str s :=
    str_of_text?_isSome
  rw [Bool.and_eq_true, Bool.or_eq_true, hhas, hhas, hcompact, hlegacy, not_exists]
  constructor
  · exact fun h => ⟨h.untagged, h.named, h.parts⟩
  · rintro ⟨huntagged, hnamed, hparts⟩
    exact ⟨huntagged, hnamed, hparts⟩

theorem Node.ofRoot?_eq_some_iff {v : Json} {n : Node} : ofRoot? v = some n ↔ ∃ fs, v = .obj fs ∧
    ((∃ s, Json.valueOf fs "nodeType" = .str s) ∧ n = ofCompact fs ∨
      LegacyRoot fs ∧ n = ofLegacy fs) := by
  cases v with
  | obj fs =>
    have hcompact : (compactLabel fs).kind.isSome = true ↔
        ∃ s, Json.valueOf fs "nodeType" = .str s := str_of_text?_isSome
    rw [ofRoot?_eq]
    simp only [Json.obj.injEq, exists_eq_left', ← hcompact, legacyRoot_iff]
    split_ifs with htagged hnamed
    · simp only [htagged, not_true_eq_false, false_and, true_and, or_false, Option.some.injEq]
      exact eq_comm
    · simp [htagged, hnamed, eq_comm (a := n)]
    · simp [htagged, hnamed]
  | _ => simp [ofRoot?]

theorem readsLeniently : ReadsLeniently where
  rooted _ _ := Node.ofRoot?_eq_some_iff
  ranged fs r := by
    rw [Node.range, Node.range, Node.label_ofCompact, Node.label_ofLegacy]
    exact ⟨ofSrc_eq_some_iff, ofSrc_eq_some_iff⟩
  unattributed fs h := by
    have hnone : entriesAt fs "attributes" = [] := by
      unfold entriesAt
      cases hv : Json.valueOf fs "attributes" with
      | obj attributes => exact absurd hv (h attributes)
      | _ => rfl
    rw [Node.label_ofLegacy, legacyLabel, hnone]
  untyped fs h := by
    have hnone : declaredType fs = none := by
      unfold declaredType
      cases hv : Json.valueOf fs "typeName" with
      | obj type => exact absurd hv (h type)
      | _ => rfl
    rw [Node.ofCompact, Node.declaredKind, hnone]
    rfl

theorem mem_treesOf {offered : Table Json} {t : String × Node} :
    t ∈ treesOf offered ↔ ∃ v, (t.1, v) ∈ offered ∧ Node.ofRoot? v = some t.2 := by
  unfold treesOf
  rw [List.mem_filterMap]
  constructor
  · rintro ⟨⟨name, v⟩, hv, ht⟩
    obtain ⟨n, hn, rfl⟩ := Option.map_eq_some_iff.mp ht
    exact ⟨v, hv, hn⟩
  · rintro ⟨v, hv, hn⟩
    exact ⟨_, hv, by rw [hn]; rfl⟩

/-- The objects of a legacy tree without such children can all be walked. -/
theorem isWalkable_of_reaches {v : Json} {fs p : Json.Fields} (h : ¬ HoldsScalar v)
    (hv : v = .obj fs) (hroot : LegacyRoot fs) (hp : Reaches fs p) :
    isWalkable (Json.valueOf p "children") = true := by
  by_contra hnot
  exact h ⟨fs, p, hv, hroot, hp, Bool.eq_false_iff.mpr hnot⟩

theorem walkable_of_mem_treesOf {offered : Table Json} (h : ∀ t ∈ offered, ¬ HoldsScalar t.2) :
    ∀ t ∈ treesOf offered, t.2.Walkable := by
  intro t ht
  obtain ⟨v, hv, hn⟩ := mem_treesOf.mp ht
  obtain ⟨fs, rfl, ⟨_, hn⟩ | ⟨hroot, hn⟩⟩ := Node.ofRoot?_eq_some_iff.mp hn
  · rw [hn]
    exact walkable_ofCompact fs
  · rw [hn]
    exact walkable_ofLegacy fun p hp => isWalkable_of_reaches (h _ hv) rfl hroot hp

theorem children_ofLegacy_of_not_list {p : Json.Fields}
    (hlist : ∀ items, Json.valueOf p "children" ≠ .arr items)
    (h : isWalkable (Json.valueOf p "children") = true) : (Node.ofLegacy p).children = .ok [] := by
  have hparts : legacyParts? p = some [] := by
    unfold legacyParts? itemFields?
    split
    · rename_i items hitems
      exact absurd hitems (hlist items)
    · exact if_pos h
  rw [Node.children_ofLegacy hparts, List.map_nil]

theorem exists_outcome_isIgnorable {trees : Table Node} (h : ∀ t ∈ trees, t.2.Walkable)
    (e : SourceMap.Entry) (source : String) : ∃ b, (isIgnorable trees e source).outcome = .ok b := by
  have hfaults : FaultsIn (fun _ => False) (answer trees e source) :=
    answer_faultsIn (fun t ht => Or.inr (h t ht)) e source
  rw [outcome_isIgnorable]
  cases hb : answer trees e source with
  | ok b => exact ⟨b, rfl⟩
  | error f => exact (hfaults f hb).elim

end Syntax

/-- Trees of any content can be searched exactly if none holds a number or `true` for children. -/
theorem resolvesDoubt_iff (offered : Table Json) :
    ResolvesDoubt offered ↔ ∀ t ∈ offered, ¬ HoldsScalar t.2 := by
  constructor
  · rintro h ⟨name, v⟩ ht ⟨fs, p, rfl, hroot, hp, hscalar⟩
    have htree : (name, Node.ofLegacy fs) ∈ treesOf offered :=
      mem_treesOf.mpr ⟨_, ht, Node.ofRoot?_eq_some_iff.mpr ⟨fs, rfl, Or.inr ⟨hroot, rfl⟩⟩⟩
    obtain ⟨cs, hcs⟩ := Node.exists_children_of_findEnclosing (mem_preorder_of_reaches hp)
      (h.found _ htree)
    exact children_ofLegacy_ne_ok hscalar cs hcs
  · intro h
    have hwalkable := walkable_of_mem_treesOf h
    refine ⟨readsLeniently, ?_, ?_, exists_outcome_isIgnorable hwalkable, ?_⟩
    · intro t ht fs p hv hroot hp hlist
      exact children_ofLegacy_of_not_list hlist (isWalkable_of_reaches (h t ht) hv hroot hp)
    · exact fun t ht => (hwalkable t ht).exists_findEnclosing
    · intro j config hj he
      exact Job.not_blocked_of_walkable (fun t ht => hwalkable t (hj t ht)) (Job.blocked_iff.mpr he)

def rootWithoutList : Json :=
  .obj [("name", .str "SourceUnit"), ("children", .bool true)]

/-- The search for an entry in such a root is cut off. -/
theorem not_forall_resolvesDoubt : ¬ ∀ offered, ResolvesDoubt offered := by
  intro h
  have htrees : treesOf [("a.sol", rootWithoutList)] =
      [("a.sol", .unwalkable ⟨some "SourceUnit", none, false, .null, .str "SourceUnit", .null⟩)] := rfl
  obtain ⟨b, hb⟩ := (h [("a.sol", rootWithoutList)]).answered ⟨0, 1, 0, .regular⟩ "a.sol"
  rw [htrees, outcome_isIgnorable] at hb
  have hanswer : ∀ n, answer [("a.sol", n)] ⟨0, 1, 0, .regular⟩ "a.sol" =
      n.hasOpenArrayAt ⟨0, 1, 0, .regular⟩ := fun _ => rfl
  rw [hanswer, Node.hasOpenArrayAt, Node.findEnclosing_eq_search] at hb
  cases hb

end AuditReport
