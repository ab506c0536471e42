import AuditReport.Proofs.Syntax.Walkable
import Mathlib.Logic.Relation

/-!
# The answer of a tree

A node that lies elsewhere has no answer, one that fits is the answer, and any other node leaves it to
its sub-nodes, of which the first that has an answer gives it. The search keeps a stack of nodes instead.
Each of its turns lowers the number of nodes on the stack and below them and keeps the answer of the
stack, so every search ends, and on a tree that can be walked it ends with the answer of the tree.
-/
namespace AuditReport.Syntax

def Range.Within (inner outer : Range) : Prop :=
  outer.start ≤ inner.start ∧ inner.start + inner.length ≤ outer.start + outer.length

instance (inner outer : Range) : Decidable (inner.Within outer) :=
  inferInstanceAs (Decidable (_ ∧ _))

theorem Range.Within.trans {r s t : Range} (h : r.Within s) (h' : s.Within t) : r.Within t := by
  unfold Within at *
  omega

theorem Range.encloses_iff {r : Range} {start length : Int} :
    r.encloses start length = true ↔ Within ⟨start, length⟩ r := by
  rw [encloses, Bool.and_eq_true, decide_eq_true_iff, decide_eq_true_iff]
  rfl

namespace Node

def Fits (kind : String) (start length : Int) (n : Node) : Prop :=
  n.kind = some kind ∧ ∃ r ∈ n.range, Range.Within ⟨start, length⟩ r

instance (kind : String) (start length : Int) (n : Node) : Decidable (n.Fits kind start length) :=
  inferInstanceAs (Decidable (_ ∧ _))

def LiesElsewhere (start length : Int) (n : Node) : Prop :=
  ∃ r ∈ n.range, ¬ Range.Within ⟨start, length⟩ r

/-- The answer of a node, given that of its sub-nodes. A node without a range leaves the answer to them,
whatever its kind. -/
def answer? (n : Node) (kind : String) (start length : Int) (below : Option Node) : Option Node :=
  match n.range with
  | none => below
  | some r =>
    if Range.Within ⟨start, length⟩ r then
      if n.kind = some kind then some n else below
    else none

end Node

mutual

def Node.outermost? (kind : String) (start length : Int) : Node → Option Node
  | .compact l t fixed cs =>
    (Node.compact l t fixed cs).answer? kind start length (outermostAmong? kind start length cs)
  | .legacy l cs => (Node.legacy l cs).answer? kind start length (outermostAmong? kind start length cs)
  | .unwalkable l => (Node.unwalkable l).answer? kind start length none

def outermostAmong? (kind : String) (start length : Int) : List Node → Option Node
  | [] => none
  | n :: ns => (n.outermost? kind start length).or (outermostAmong? kind start length ns)

end

/-- A turn of a search with a stack, the top of which is its last node. The top is taken off, and unless
it lies elsewhere its sub-nodes are put on, the last of them first. No turn is left at a node that fits. -/
inductive Turn (kind : String) (start length : Int) : List Node → List Node → Prop where
  | leave {stack : List Node} {n : Node} (helsewhere : n.LiesElsewhere start length) :
      Turn kind start length (stack ++ [n]) stack
  | descend {stack : List Node} {n : Node} {cs : List Node} (hhere : ¬ n.LiesElsewhere start length)
      (hnot : ¬ n.Fits kind start length) (listed : n.children = .ok cs) :
      Turn kind start length (stack ++ [n]) (stack ++ cs.reverse)

def Turns (kind : String) (start length : Int) : List Node → List Node → Prop :=
  Relation.ReflTransGen (Turn kind start length)

variable {kind : String} {start length : Int} {n : Node} {cs : List Node}

namespace Node

theorem answer?_of_liesElsewhere (h : n.LiesElsewhere start length) (below : Option Node) :
    n.answer? kind start length below = none := by
  obtain ⟨r, hr, hnot⟩ := h
  rw [answer?, Option.mem_def.mp hr]
  exact if_neg hnot

theorem answer?_of_fits (h : n.Fits kind start length) (below : Option Node) :
    n.answer? kind start length below = some n := by
  obtain ⟨hkind, r, hr, hwithin⟩ := h
  rw [answer?, Option.mem_def.mp hr]
  dsimp only
  rw [if_pos hwithin, if_pos hkind]

theorem answer?_of_not (hhere : ¬ n.LiesElsewhere start length) (hnot : ¬ n.Fits kind start length)
    (below : Option Node) : n.answer? kind start length below = below := by
  rw [answer?]
  cases hr : n.range with
  | none => rfl
  | some r =>
    have hwithin : Range.Within ⟨start, length⟩ r := by
      by_contra helsewhere
      exact hhere ⟨r, hr, helsewhere⟩
    have hkind : n.kind ≠ some kind := fun hk => hnot ⟨hk, r, hr, hwithin⟩
    dsimp only
    rw [if_pos hwithin, if_neg hkind]

theorem step_of_liesElsewhere (h : n.LiesElsewhere start length) :
    n.step kind start length = .leave := by
  obtain ⟨r, hr, hnot⟩ := h
  rw [step, Option.mem_def.mp hr]
  exact if_neg (mt Range.encloses_iff.mp hnot)

theorem step_of_fits (h : n.Fits kind start length) : n.step kind start length = .take := by
  obtain ⟨hkind, r, hr, hwithin⟩ := h
  rw [step, Option.mem_def.mp hr]
  dsimp only
  rw [if_pos (Range.encloses_iff.mpr hwithin), if_pos hkind]

theorem step_of_not (hhere : ¬ n.LiesElsewhere start length) (hnot : ¬ n.Fits kind start length) :
    n.step kind start length = .descend := by
  rw [step]
  cases hr : n.range with
  | none => rfl
  | some r =>
    have hencloses : r.encloses start length = true := by
      by_contra helsewhere
      exact hhere ⟨r, hr, mt Range.encloses_iff.mpr helsewhere⟩
    have hkind : n.kind ≠ some kind :=
      fun hk => hnot ⟨hk, r, hr, Range.encloses_iff.mp hencloses⟩
    dsimp only
    rw [if_pos hencloses, if_neg hkind]

theorem exists_outermost?_eq (n : Node) (kind : String) (start length : Int) :
    ∃ below, n.outermost? kind start length = n.answer? kind start length below := by
  cases n with
  | compact l t fixed cs => exact ⟨_, by rw [outermost?]⟩
  | legacy l cs => exact ⟨_, by rw [outermost?]⟩
  | unwalkable l => exact ⟨_, by rw [outermost?]⟩

theorem outermost?_eq (h : n.children = .ok cs) : n.outermost? kind start length =
    n.answer? kind start length (outermostAmong? kind start length cs) := by
  cases n with
  | compact l t fixed below =>
    cases h
    rw [outermost?]
  | legacy l below =>
    cases h
    rw [outermost?]
  | unwalkable l => cases h

end Node

theorem outermostAmong?_eq (ns : List Node) : outermostAmong? kind start length ns =
    ns.findSome? fun n => n.outermost? kind start length := by
  induction ns with
  | nil => rfl
  | cons n ns ih =>
    rw [outermostAmong?, ih, List.findSome?_cons]
    cases n.outermost? kind start length <;> rfl

theorem outermostAmong?_append (ns ms : List Node) : outermostAmong? kind start length (ns ++ ms) =
    (outermostAmong? kind start length ns).or (outermostAmong? kind start length ms) := by
  rw [outermostAmong?_eq, outermostAmong?_eq, outermostAmong?_eq, List.findSome?_append]

theorem searchAll_eq_ok {ns : List Node}
    (h : ∀ n ∈ ns, n.search kind start length = .ok (n.outermost? kind start length)) :
    searchAll kind start length ns = .ok (outermostAmong? kind start length ns) := by
  induction ns with
  | nil => rfl
  | cons n ns ih =>
    rw [searchAll, h n List.mem_cons_self, outermostAmong?]
    cases n.outermost? kind start length with
    | some m => rfl
    | none => exact ih fun m hm => h m (List.mem_cons_of_mem n hm)

theorem Node.Walkable.search_eq (h : n.Walkable) :
    n.search kind start length = .ok (n.outermost? kind start length) := by
  induction h with
  | intro listed _ ih =>
    rename_i n cs _
    rw [Node.search_eq, outermost?_eq listed]
    by_cases helsewhere : n.LiesElsewhere start length
    · rw [step_of_liesElsewhere helsewhere, answer?_of_liesElsewhere helsewhere]
    · by_cases hfits : n.Fits kind start length
      · rw [step_of_fits hfits, answer?_of_fits hfits]
      · rw [step_of_not helsewhere hfits, answer?_of_not helsewhere hfits]
        simp only [listed, searchAll_eq_ok ih]

section Turns

variable {stack next : List Node}

theorem sizes_reverse (ns : List Node) : sizes ns.reverse = sizes ns := by
  induction ns with
  | nil => rfl
  | cons n ns ih =>
    rw [List.reverse_cons, sizes_append, ih]
    simp only [sizes]
    omega

theorem Turn.sizes_lt (h : Turn kind start length stack next) : sizes next < sizes stack := by
  cases h with
  | @leave _ n helsewhere =>
    have hpos := n.size_pos
    rw [sizes_append]
    simp only [sizes]
    omega
  | descend _ _ listed =>
    have hbelow := sizes_children listed
    rw [sizes_append, sizes_append, sizes_reverse]
    simp only [sizes]
    omega

/-- No search goes on for ever. -/
theorem wellFounded_turn (kind : String) (start length : Int) :
    WellFounded fun next stack => Turn kind start length stack next := by
  apply Subrelation.wf (r := InvImage (· < ·) sizes) _ (InvImage.wf sizes Nat.lt_wfRel.wf)
  intro next stack h
  exact h.sizes_lt

/-- A turn keeps the first answer of the stack, looked at from its top. -/
theorem Turn.outermostAmong?_eq (h : Turn kind start length stack next) :
    outermostAmong? kind start length next.reverse =
      outermostAmong? kind start length stack.reverse := by
  cases h with
  | @leave _ n helsewhere =>
    obtain ⟨below, hanswer⟩ := n.exists_outermost?_eq kind start length
    rw [List.reverse_append, List.reverse_singleton, List.singleton_append, outermostAmong?, hanswer,
      Node.answer?_of_liesElsewhere helsewhere, Option.none_or]
  | descend hhere hnot listed =>
    rw [List.reverse_append, List.reverse_append, List.reverse_reverse, List.reverse_singleton,
      List.singleton_append, outermostAmong?_append, outermostAmong?, Node.outermost?_eq listed,
      Node.answer?_of_not hhere hnot]

theorem Turn.walkable (h : Turn kind start length stack next) (hstack : ∀ n ∈ stack, n.Walkable) :
    ∀ n ∈ next, n.Walkable := by
  cases h with
  | leave _ => exact fun n hn => hstack n (List.mem_append_left _ hn)
  | @descend stack n cs _ _ listed =>
    intro m hm
    rcases List.mem_append.mp hm with hm | hm
    · exact hstack m (List.mem_append_left _ hm)
    · obtain ⟨hlisted, hbelow⟩ := hstack n (List.mem_append_right _ (List.mem_singleton_self n))
      cases hlisted.symm.trans listed
      exact hbelow m (List.mem_reverse.mp hm)

/-- Where no turn is left, the stack is empty or its top fits. -/
theorem getLast?_of_stuck (hstack : ∀ n ∈ stack, n.Walkable)
    (hstuck : ∀ next, ¬ Turn kind start length stack next) :
    stack.getLast? = outermostAmong? kind start length stack.reverse := by
  rcases List.eq_nil_or_concat stack with rfl | ⟨rest, n, rfl⟩
  · rfl
  · obtain ⟨listed, _⟩ := hstack n (by simp)
    rw [List.concat_eq_append] at hstuck ⊢
    have hhere : ¬ n.LiesElsewhere start length := fun h => hstuck _ (.leave h)
    have hfits : n.Fits kind start length := by
      by_contra hnot
      exact hstuck _ (.descend hhere hnot listed)
    rw [List.getLast?_concat, List.reverse_append, List.reverse_singleton, List.singleton_append,
      outermostAmong?, Node.outermost?_eq listed, Node.answer?_of_fits hfits, Option.some_or]

/-- A search that has ended has the answer of its tree on top of the stack. -/
theorem Turns.getLast?_eq (hroot : n.Walkable) (h : Turns kind start length [n] stack)
    (hstuck : ∀ next, ¬ Turn kind start length stack next) :
    stack.getLast? = n.outermost? kind start length := by
  have hkept : (∀ m ∈ stack, m.Walkable) ∧ outermostAmong? kind start length stack.reverse =
      outermostAmong? kind start length [n] := by
    clear hstuck
    induction h with
    | refl => exact ⟨List.forall_mem_singleton.mpr hroot, rfl⟩
    | tail _ hturn ih => exact ⟨hturn.walkable ih.1, hturn.outermostAmong?_eq.trans ih.2⟩
  rw [getLast?_of_stuck hkept.1 hstuck, hkept.2, outermostAmong?, outermostAmong?, Option.or_none]

end Turns
end AuditReport.Syntax
