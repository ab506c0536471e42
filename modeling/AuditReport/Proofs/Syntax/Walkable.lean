import AuditReport.Proofs.Syntax.SearchedTree

/-!
# Trees that can be walked

A search fails only at a legacy node whose sub-nodes cannot be listed. In a tree without such nodes
every search has an answer. Both are read off one statement about faults of some kind: either the
fault of those nodes is of that kind, or there are no such nodes.
-/
namespace AuditReport.Syntax

inductive Node.Walkable : Node → Prop where
  | intro {n : Node} {cs : List Node} (listed : n.children = .ok cs)
      (below : ∀ c ∈ cs, c.Walkable) : n.Walkable

variable {P : Fault → Prop}

/-- The fault of nodes without a list of sub-nodes is of a kind, or there are none in the tree. -/
def Node.FailsIn (P : Fault → Prop) (n : Node) : Prop :=
  P (.defect .notIterable) ∨ n.Walkable

theorem Node.FailsIn.of_unwalkable {l : Label} (h : (Node.unwalkable l).FailsIn P) :
    P (.defect .notIterable) := by
  rcases h with h | ⟨hlisted, _⟩
  · exact h
  · cases hlisted

theorem Node.FailsIn.children {n : Node} (h : n.FailsIn P) : FaultsIn P n.children ∧
    ∀ cs, n.children = .ok cs → ∀ c ∈ cs, c.FailsIn P := by
  constructor
  · cases n with
    | compact l t fixed cs => exact .ok cs
    | legacy l cs => exact .ok cs
    | unwalkable l => exact .error h.of_unwalkable
  · intro cs hcs c hc
    rcases h with h | ⟨hlisted, hbelow⟩
    · exact Or.inl h
    · cases hcs.symm.trans hlisted
      exact Or.inr (hbelow c hc)

theorem Node.FailsIn.hasFixedLength {n : Node} (h : n.FailsIn P) : FaultsIn P n.hasFixedLength := by
  cases n with
  | compact l t fixed cs => exact .ok fixed
  | legacy l cs => exact .ok _
  | unwalkable l => exact .error h.of_unwalkable

theorem Node.FailsIn.declaredKind {n : Node} (h : n.FailsIn P) : FaultsIn P n.declaredKind := by
  cases n with
  | compact l t fixed cs => exact .ok _
  | legacy l cs => exact .ok _
  | unwalkable l => exact .error h.of_unwalkable

theorem Node.FailsIn.declaredLength {n : Node} (h : n.FailsIn P) : FaultsIn P n.declaredLength := by
  cases n with
  | compact l t fixed cs => exact .ok _
  | legacy l cs =>
    cases cs with
    | nil => exact .ok false
    | cons c cs => exact (h.children.2 _ rfl c List.mem_cons_self).hasFixedLength
  | unwalkable l => exact .error h.of_unwalkable

theorem Node.FailsIn.isOpenArray {n : Node} (h : n.FailsIn P) : FaultsIn P n.isOpenArray := by
  unfold Node.isOpenArray
  split_ifs
  · apply h.declaredKind.bind
    intro kind _
    split_ifs
    · exact h.declaredLength.bind fun fixed _ => .ok _
    · exact .ok false
  · exact .ok false

theorem enclosing_faultsIn {kind : String} {start length : Int} {pending : List Node}
    (h : ∀ n ∈ pending, n.FailsIn P) : FaultsIn P (enclosing kind start length pending) ∧
      ∀ n, enclosing kind start length pending = .ok (some n) → n.FailsIn P := by
  fun_induction enclosing kind start length pending with
  | case1 =>
    refine ⟨.ok none, ?_⟩
    intro m hm
    cases hm
  | case2 n pending _ ih => exact ih fun m hm => h m (List.mem_cons_of_mem n hm)
  | case3 n pending _ =>
    refine ⟨.ok (some n), ?_⟩
    intro m hm
    cases hm
    exact h n List.mem_cons_self
  | case4 n pending _ e he =>
    refine ⟨.error ((h n List.mem_cons_self).children.1 e he), ?_⟩
    intro m hm
    cases hm
  | case5 n pending _ cs hcs ih =>
    apply ih
    intro m hm
    rcases List.mem_append.mp hm with hm | hm
    · exact (h n List.mem_cons_self).children.2 cs hcs m hm
    · exact h m (List.mem_cons_of_mem n hm)

theorem Node.FailsIn.hasOpenArrayAt {tree : Node} (h : tree.FailsIn P) (e : SourceMap.Entry) :
    FaultsIn P (tree.hasOpenArrayAt e) := by
  have hroot : ∀ n ∈ [tree], n.FailsIn P := List.forall_mem_singleton.mpr h
  obtain ⟨hfaults, hfound⟩ := enclosing_faultsIn hroot
  apply FaultsIn.bind hfaults
  intro found hf
  cases found with
  | none => exact .ok false
  | some n => exact (hfound n hf).isOpenArray

theorem answer_faultsIn {trees : Table Node} (h : ∀ t ∈ trees, t.2.FailsIn P) (e : SourceMap.Entry)
    (source : String) : FaultsIn P (answer trees e source) := by
  unfold answer
  split_ifs
  · cases htree : Table.byName? trees source with
    | none => exact .ok false
    | some tree =>
      obtain ⟨t, ht, rfl⟩ := Table.exists_mem_of_byName? htree
      exact (h t ht).hasOpenArrayAt e
  · exact .ok false

end AuditReport.Syntax
