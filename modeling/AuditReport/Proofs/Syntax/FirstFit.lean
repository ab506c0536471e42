import AuditReport.Proofs.Syntax.Outermost

/-!
# What a search finds in a tree

A search leaves out all that is below a node which lies elsewhere. What it finds fits and stands below
no other node that fits. Where ranges are nested nothing is missed: whatever encloses a range stands
below nodes that enclose it, so the search finds the first node of the whole tree that fits.
-/
namespace AuditReport.Syntax

mutual

def Node.preorder : Node → List Node
  | .compact l t fixed cs => .compact l t fixed cs :: preorderOf cs
  | .legacy l cs => .legacy l cs :: preorderOf cs
  | .unwalkable l => [.unwalkable l]

def preorderOf : List Node → List Node
  | [] => []
  | n :: ns => n.preorder ++ preorderOf ns

end

namespace Node

/-- The node at a place, which tells for each level the position of the sub-node to go on in. -/
def at? (n : Node) : List Nat → Option Node
  | [] => some n
  | i :: place => (n.children.toOption.bind (·[i]?)).bind (·.at? place)

def WellNested (root : Node) : Prop :=
  ∀ m ∈ root.preorder, ∀ n ∈ m.preorder, ∀ r ∈ m.range, ∀ s ∈ n.range, s.Within r

structure FindsOutermost (root : Node) (kind : String) (start length : Int) (found : Option Node) :
    Prop where
  eq_outermost? : found = root.outermost? kind start length
  turns_end : WellFounded fun next stack => Turn kind start length stack next
  getLast?_eq : ∀ stack, Turns kind start length [root] stack →
    (∀ next, ¬ Turn kind start length stack next) → stack.getLast? = found
  fits : ∀ n, found = some n → ∃ place, root.at? place = some n ∧ n.Fits kind start length ∧
    ∀ i < place.length, ∀ m, root.at? (place.take i) = some m → ¬ m.Fits kind start length
  first : root.WellNested →
    found = root.preorder.find? (fun n => decide (n.Fits kind start length)) ∧
    (found = none ↔ ∀ place n, root.at? place = some n → ¬ n.Fits kind start length)

variable {kind : String} {start length : Int} {n : Node} {cs : List Node}

theorem preorderOf_eq (ns : List Node) : preorderOf ns = ns.flatMap preorder := by
  induction ns with
  | nil => rfl
  | cons n ns ih => rw [preorderOf, ih, List.flatMap_cons]

theorem preorder_eq (h : n.children = .ok cs) : n.preorder = n :: cs.flatMap preorder := by
  rw [← preorderOf_eq]
  cases n with
  | compact l t fixed below =>
    cases h
    rw [preorder]
  | legacy l below =>
    cases h
    rw [preorder]
  | unwalkable l => cases h

theorem mem_preorder_self (n : Node) : n ∈ n.preorder := by
  cases n <;> rw [preorder] <;> exact List.mem_cons_self

theorem at?_cons (h : n.children = .ok cs) (i : Nat) (place : List Nat) :
    n.at? (i :: place) = cs[i]?.bind (·.at? place) := by
  rw [at?, h]
  rfl

theorem Walkable.mem_preorder_iff (h : n.Walkable) {m : Node} :
    m ∈ n.preorder ↔ ∃ place, n.at? place = some m := by
  induction h with
  | intro listed _ ih =>
    rename_i n cs _
    rw [preorder_eq listed, List.mem_cons, List.mem_flatMap]
    constructor
    · rintro (rfl | ⟨c, hc, hm⟩)
      · exact ⟨[], rfl⟩
      · obtain ⟨place, hplace⟩ := (ih c hc).mp hm
        obtain ⟨k, hk⟩ := List.mem_iff_getElem?.mp hc
        exact ⟨k :: place, by rw [at?_cons listed, hk]; exact hplace⟩
    · rintro ⟨place, hplace⟩
      cases place with
      | nil => exact Or.inl (Option.some.inj hplace).symm
      | cons k place =>
        rw [at?_cons listed] at hplace
        obtain ⟨c, hc, hm⟩ := Option.bind_eq_some_iff.mp hplace
        have hmem := List.mem_of_getElem? hc
        exact Or.inr ⟨c, hmem, (ih c hmem).mpr ⟨place, hm⟩⟩

/-- The answer of a tree stands at a place where it fits, and nothing on the way to it does. -/
theorem Walkable.exists_place (h : n.Walkable) {found : Node}
    (hfound : n.outermost? kind start length = some found) :
    ∃ place, n.at? place = some found ∧ found.Fits kind start length ∧
      ∀ i < place.length, ∀ m, n.at? (place.take i) = some m → ¬ m.Fits kind start length := by
  induction h with
  | intro listed _ ih =>
    rename_i n cs _
    rw [outermost?_eq listed] at hfound
    by_cases helsewhere : n.LiesElsewhere start length
    · rw [answer?_of_liesElsewhere helsewhere] at hfound
      cases hfound
    · by_cases hfits : n.Fits kind start length
      · rw [answer?_of_fits hfits] at hfound
        cases hfound
        exact ⟨[], rfl, hfits, fun i hi => absurd hi (Nat.not_lt_zero i)⟩
      · rw [answer?_of_not helsewhere hfits, outermostAmong?_eq] at hfound
        obtain ⟨c, hc, hanswer⟩ := List.exists_of_findSome?_eq_some hfound
        obtain ⟨place, hplace, hfound, habove⟩ := ih c hc hanswer
        obtain ⟨k, hk⟩ := List.mem_iff_getElem?.mp hc
        refine ⟨k :: place, ?_, hfound, ?_⟩
        · rw [at?_cons listed, hk]
          exact hplace
        · intro i hi m hm
          cases i with
          | zero =>
            cases hm
            exact hfits
          | succ i =>
            rw [List.take_succ_cons, at?_cons listed, hk] at hm
            exact habove i (Nat.lt_of_succ_lt_succ hi) m hm

theorem WellNested.of_mem (h : n.WellNested) (listed : n.children = .ok cs) {c : Node} (hc : c ∈ cs) :
    c.WellNested := by
  intro m hm
  apply h m
  rw [preorder_eq listed]
  exact List.mem_cons_of_mem n (List.mem_flatMap.mpr ⟨c, hc, hm⟩)

/-- Where ranges are nested, nothing below a node that lies elsewhere fits. -/
theorem WellNested.not_fits (h : n.WellNested) (helsewhere : n.LiesElsewhere start length) :
    ∀ m ∈ n.preorder, ¬ m.Fits kind start length := by
  obtain ⟨r, hr, hnot⟩ := helsewhere
  rintro m hm ⟨_, s, hs, hwithin⟩
  exact hnot (hwithin.trans (h n (mem_preorder_self n) m hm r hr s hs))

theorem outermostAmong?_eq_find? (h : ∀ c ∈ cs, c.outermost? kind start length =
      c.preorder.find? fun m => decide (m.Fits kind start length)) :
    outermostAmong? kind start length cs =
      (cs.flatMap preorder).find? fun m => decide (m.Fits kind start length) := by
  induction cs with
  | nil => rfl
  | cons c cs ih =>
    obtain ⟨hc, hcs⟩ := List.forall_mem_cons.mp h
    rw [outermostAmong?, ih hcs, hc, List.flatMap_cons, List.find?_append]

theorem Walkable.outermost?_eq_find? (h : n.Walkable) (hnested : n.WellNested) :
    n.outermost? kind start length =
      n.preorder.find? fun m => decide (m.Fits kind start length) := by
  induction h with
  | intro listed _ ih =>
    rename_i n cs _
    have hbelow := outermostAmong?_eq_find? fun c hc => ih c hc (hnested.of_mem listed hc)
    rw [outermost?_eq listed, hbelow]
    by_cases helsewhere : n.LiesElsewhere start length
    · rw [answer?_of_liesElsewhere helsewhere, eq_comm, List.find?_eq_none]
      intro m hm
      simpa using hnested.not_fits helsewhere m hm
    · rw [preorder_eq listed]
      by_cases hfits : n.Fits kind start length
      · rw [answer?_of_fits hfits, List.find?_cons_of_pos (by simpa using hfits)]
      · rw [answer?_of_not helsewhere hfits, List.find?_cons_of_neg (by simpa using hfits)]

theorem findEnclosing_findsOutermost (h : n.Walkable) (kind : String) (start length : Int) :
    ∃ found, n.findEnclosing kind start length = .ok found ∧
      n.FindsOutermost kind start length found := by
  refine ⟨n.outermost? kind start length, ?_, rfl, wellFounded_turn kind start length, ?_, ?_, ?_⟩
  · rw [findEnclosing_eq_search, h.search_eq]
  · exact fun stack hturns hstuck => hturns.getLast?_eq h hstuck
  · exact fun m hm => h.exists_place hm
  · intro hnested
    refine ⟨h.outermost?_eq_find? hnested, ?_⟩
    rw [h.outermost?_eq_find? hnested, List.find?_eq_none]
    constructor
    · intro hnone place m hm
      simpa using hnone m (h.mem_preorder_iff.mpr ⟨place, hm⟩)
    · intro hnone m hm
      obtain ⟨place, hplace⟩ := h.mem_preorder_iff.mp hm
      simpa using hnone place m hplace

end Node

def plainNode (kind : String) (range : Option Range) (below : List Node) : Node :=
  .legacy ⟨some kind, range, false, .null, .str kind, .null⟩ below

def itemsDeclaration : Node :=
  plainNode variableDeclaration (some ⟨10, 20⟩) [plainNode variableDeclaration (some ⟨12, 8⟩) []]

/-- A declaration without a range stands above two with ranges, one of them in the other. -/
def declarationsTree : Node :=
  plainNode "ContractDefinition" (some ⟨0, 40⟩)
    [plainNode variableDeclaration (some ⟨0, 9⟩) [],
      plainNode variableDeclaration none [itemsDeclaration]]

theorem walkable_plainNode {kind : String} {range : Option Range} {below : List Node}
    (h : ∀ n ∈ below, n.Walkable) : (plainNode kind range below).Walkable :=
  .intro rfl h

theorem declarationsTree_findsOutermost : declarationsTree.Walkable ∧ declarationsTree.WellNested ∧
    declarationsTree.FindsOutermost variableDeclaration 15 3 (some itemsDeclaration) := by
  have hleaf : ∀ kind range, (plainNode kind range []).Walkable :=
    fun _ _ => walkable_plainNode (List.forall_mem_nil _)
  have hitems : itemsDeclaration.Walkable :=
    walkable_plainNode (List.forall_mem_singleton.mpr (hleaf _ _))
  have hwalkable : declarationsTree.Walkable := by
    apply walkable_plainNode
    rw [List.forall_mem_cons, List.forall_mem_singleton]
    exact ⟨hleaf _ _, walkable_plainNode (List.forall_mem_singleton.mpr hitems)⟩
  have hnested : declarationsTree.WellNested := by
    unfold Node.WellNested
    decide
  obtain ⟨found, hsearch, hfound⟩ :=
    Node.findEnclosing_findsOutermost hwalkable variableDeclaration 15 3
  have hitself : declarationsTree.findEnclosing variableDeclaration 15 3 =
      .ok (some itemsDeclaration) := by
    rw [Node.findEnclosing_eq_search]
    rfl
  rw [← Except.ok.inj (hsearch.symm.trans hitself)]
  exact ⟨hwalkable, hnested, hfound⟩

end AuditReport.Syntax
