import AuditReport.Proofs.Syntax.FirstFit
import AuditReport.Proofs.Syntax.Objects
import AuditReport.Proofs.Text.Pieces

/-!
# Trees of any content

A tree is read from a value of any content. In the legacy schema the objects below another one are those
among the items of its `children` list. A tree can be walked unless one of them has a number other than
zero, or `true`, in the place of the list. A search for a kind that no node has, around a range that all
nodes enclose, walks through the whole tree; so where a tree cannot be walked some search fails.
-/
namespace AuditReport.Syntax

/-- An object held by another one at some level, each time among the items of the `children` list. -/
inductive Reaches : Json.Fields → Json.Fields → Prop where
  | root (fs : Json.Fields) : Reaches fs fs
  | item {fs p q : Json.Fields} {items : List Json} (hlist : Json.valueOf fs "children" = .arr items)
      (hp : .obj p ∈ items) (h : Reaches p q) : Reaches fs q

/-- A root that is read in the legacy schema: it is named and not tagged, and has children or
attributes. -/
structure LegacyRoot (fs : Json.Fields) : Prop where
  untagged : ∀ s, Json.valueOf fs "nodeType" ≠ .str s
  named : ∃ s, Json.valueOf fs "name" = .str s
  parts : "children" ∈ Table.keys fs ∨ "attributes" ∈ Table.keys fs

/-- A legacy tree with a number other than zero, or `true`, for the children of some object. -/
def HoldsScalar (v : Json) : Prop :=
  ∃ fs p, v = .obj fs ∧ LegacyRoot fs ∧ Reaches fs p ∧
    isWalkable (Json.valueOf p "children") = false

def WritesRange (s : String) (r : Range) : Prop :=
  ∃ first second rest, s.toList = first ++ ':' :: (second ++ rest) ∧ ':' ∉ first ∧ ':' ∉ second ∧
    (∀ c ∈ rest.head?, c = ':') ∧ Text.Numeral.read? first = some r.start ∧
    Text.Numeral.read? second = some r.length

theorem writesRange_of_ofSrc {s : String} {r : Range} (h : Range.ofSrc (.str s) = some r) :
    WritesRange s r := by
  rw [Range.ofSrc] at h
  split at h
  · rename_i first second more hpieces
    obtain ⟨tail, hs, hfirst, htail⟩ := Text.pieces_eq_cons_cons_iff.mp hpieces
    obtain ⟨rest, rfl, hsecond, hhead⟩ := Text.exists_pieces_eq_cons_iff.mp ⟨more, htail⟩
    obtain ⟨start, hstart, h⟩ := Option.bind_eq_some_iff.mp h
    obtain ⟨length, hlength, h⟩ := Option.bind_eq_some_iff.mp h
    cases h
    exact ⟨first, second, rest, hs, hfirst, hsecond, hhead, hstart, hlength⟩
  · cases h

theorem ofSrc_of_writesRange {s : String} {r : Range} (h : WritesRange s r) :
    Range.ofSrc (.str s) = some r := by
  obtain ⟨first, second, rest, hs, hfirst, hsecond, hhead, hstart, hlength⟩ := h
  obtain ⟨more, hmore⟩ := Text.exists_pieces_eq_cons_iff.mpr ⟨rest, rfl, hsecond, hhead⟩
  rw [Range.ofSrc, Text.pieces_eq_cons_cons_iff.mpr ⟨_, hs, hfirst, hmore⟩]
  simp only [hstart, hlength]
  rfl

/-- A value gives a range exactly if it is a text that writes it. -/
theorem ofSrc_eq_some_iff {v : Json} {r : Range} :
    Range.ofSrc v = some r ↔ ∃ s, v = .str s ∧ WritesRange s r := by
  constructor
  · intro h
    cases v with
    | str s => exact ⟨s, rfl, writesRange_of_ofSrc h⟩
    | _ => cases h
  · rintro ⟨s, rfl, h⟩
    exact ofSrc_of_writesRange h

section Below

theorem size_le_sizes {n : Node} {ns : List Node} (h : n ∈ ns) : n.size ≤ sizes ns := by
  induction ns with
  | nil => cases h
  | cons m ns ih =>
    rw [sizes]
    rcases List.mem_cons.mp h with rfl | h
    · omega
    · have := ih h
      omega

/-- Where the sub-nodes of every node of a class can be listed and are of the class again, its nodes
can be walked. -/
theorem Node.walkable_of_closed {P : Node → Prop}
    (hP : ∀ n, P n → ∃ cs, n.children = .ok cs ∧ ∀ c ∈ cs, P c) {n : Node} (h : P n) :
    n.Walkable := by
  induction hsize : n.size using Nat.strong_induction_on generalizing n with
  | _ size ih =>
    obtain ⟨cs, hcs, hbelow⟩ := hP n h
    refine ⟨hcs, fun c hc => ih c.size ?_ (hbelow c hc) rfl⟩
    have hlt := sizes_children hcs
    have hle := size_le_sizes hc
    omega

theorem walkable_ofCompact (fs : Json.Fields) : (Node.ofCompact fs).Walkable := by
  apply Node.walkable_of_closed (P := fun n => ∃ fs, n = Node.ofCompact fs) _ ⟨fs, rfl⟩
  rintro _ ⟨fs, rfl⟩
  refine ⟨_, Node.children_ofCompact fs, ?_⟩
  intro c hc
  obtain ⟨p, _, rfl⟩ := List.mem_map.mp hc
  exact ⟨p, rfl⟩

theorem isWalkable_of_legacyParts? {fs : Json.Fields} {ps : List Json.Fields}
    (h : legacyParts? fs = some ps) : isWalkable (Json.valueOf fs "children") = true := by
  unfold legacyParts? itemFields? at h
  split at h
  · rename_i items hitems
    rw [hitems]
    rfl
  · split at h
    · assumption
    · cases h

theorem mem_legacyParts? {fs p : Json.Fields} {ps : List Json.Fields} (h : legacyParts? fs = some ps) :
    p ∈ ps ↔ ∃ items, Json.valueOf fs "children" = .arr items ∧ .obj p ∈ items := by
  have hfields : ∀ v : Json, v.fields? = some p ↔ v = .obj p := by
    intro v
    cases v <;> simp [Json.fields?]
  unfold legacyParts? itemFields? at h
  split at h
  · rename_i items hitems
    cases h
    simp [hitems, hfields]
  · rename_i hlist
    split at h
    · cases h
      constructor
      · intro hp
        cases hp
      · rintro ⟨items, hitems, _⟩
        exact absurd hitems (hlist items)
    · cases h

theorem exists_legacyParts? {fs : Json.Fields}
    (h : isWalkable (Json.valueOf fs "children") = true) : ∃ ps, legacyParts? fs = some ps := by
  unfold legacyParts? itemFields?
  split
  · exact ⟨_, rfl⟩
  · exact ⟨[], if_pos h⟩

theorem walkable_ofLegacy {fs : Json.Fields}
    (h : ∀ p, Reaches fs p → isWalkable (Json.valueOf p "children") = true) :
    (Node.ofLegacy fs).Walkable := by
  apply Node.walkable_of_closed (P := fun n => ∃ fs, n = Node.ofLegacy fs ∧
    ∀ p, Reaches fs p → isWalkable (Json.valueOf p "children") = true) _ ⟨fs, rfl, h⟩
  rintro _ ⟨fs, rfl, h⟩
  obtain ⟨ps, hps⟩ := exists_legacyParts? (h fs (.root fs))
  refine ⟨_, Node.children_ofLegacy hps, ?_⟩
  intro c hc
  obtain ⟨p, hp, rfl⟩ := List.mem_map.mp hc
  obtain ⟨items, hitems, hmem⟩ := (mem_legacyParts? hps).mp hp
  exact ⟨p, rfl, fun q hq => h q (.item hitems hmem hq)⟩

theorem children_ofLegacy_ne_ok {p : Json.Fields}
    (h : isWalkable (Json.valueOf p "children") = false) (cs : List Node) :
    (Node.ofLegacy p).children ≠ .ok cs := by
  have hnone : legacyParts? p = none := by
    cases hps : legacyParts? p with
    | none => rfl
    | some ps =>
      rw [isWalkable_of_legacyParts? hps] at h
      cases h
  have hnode : Node.ofLegacy p = .unwalkable (legacyLabel p) := by
    rw [Node.ofLegacy, legacyChildren_eq, hnone]
    rfl
  rw [hnode]
  intro hcs
  cases hcs

/-- What an object reaches has its node in the tree, as long as the way to it can be walked. -/
theorem mem_preorder_of_reaches {fs p : Json.Fields} (h : Reaches fs p) :
    Node.ofLegacy p ∈ (Node.ofLegacy fs).preorder := by
  induction h with
  | root fs => exact Node.mem_preorder_self _
  | item hlist hp _ ih =>
    rename_i fs p q items _
    have hwalk : isWalkable (Json.valueOf fs "children") = true := by rw [hlist]; rfl
    obtain ⟨ps, hps⟩ := exists_legacyParts? hwalk
    have hmem := (mem_legacyParts? hps).mpr ⟨items, hlist, hp⟩
    rw [Node.preorder_eq (Node.children_ofLegacy hps)]
    exact List.mem_cons_of_mem _ (List.mem_flatMap.mpr ⟨_, List.mem_map_of_mem hmem, ih⟩)

end Below

section Passing

variable {kind : String} {start length : Int}

/-- A search that has to go on at every node comes to the one whose sub-nodes cannot be listed. -/
theorem enclosing_eq_error {pending : List Node} {m : Node}
    (hpass : ∀ n ∈ pending.flatMap Node.preorder, n.step kind start length = .descend)
    (hm : m ∈ pending.flatMap Node.preorder) (hlist : ∀ cs, m.children ≠ .ok cs) :
    ∃ e, enclosing kind start length pending = .error e := by
  fun_induction enclosing kind start length pending with
  | case1 => cases hm
  | case2 n pending hstep =>
    have := hpass n (List.mem_flatMap.mpr ⟨n, List.mem_cons_self, n.mem_preorder_self⟩)
    cases hstep.symm.trans this
  | case3 n pending hstep =>
    have := hpass n (List.mem_flatMap.mpr ⟨n, List.mem_cons_self, n.mem_preorder_self⟩)
    cases hstep.symm.trans this
  | case4 n pending _ e _ => exact ⟨e, rfl⟩
  | case5 n pending _ cs hcs ih =>
    have hnodes : (n :: pending).flatMap Node.preorder = n :: (cs ++ pending).flatMap Node.preorder := by
      rw [List.flatMap_cons, Node.preorder_eq hcs, List.flatMap_append, List.cons_append]
    rw [hnodes] at hpass hm
    apply ih fun d hd => hpass d (List.mem_cons_of_mem n hd)
    rcases List.mem_cons.mp hm with rfl | hm
    · exact absurd hcs (hlist cs)
    · exact hm

/-- Beyond a bound, no node of a list is of the kind and all of them enclose the range. -/
theorem exists_bound (ns : List Node) : ∃ b : Nat, ∀ (kind : String) (start length : Int),
    b < kind.length → (b : Int) ≤ start → start + length ≤ -b →
      ∀ n ∈ ns, n.step kind start length = .descend := by
  induction ns with
  | nil => exact ⟨0, fun _ _ _ _ _ _ => List.forall_mem_nil _⟩
  | cons n ns ih =>
    obtain ⟨b, hb⟩ := ih
    obtain ⟨k, hk⟩ : ∃ k, ∀ s, n.kind = some s → s.length ≤ k := by
      cases n.kind with
      | none => exact ⟨0, nofun⟩
      | some s => exact ⟨s.length, fun t ht => by cases ht; exact Nat.le_refl _⟩
    obtain ⟨c, hc⟩ : ∃ c : Nat, ∀ r, n.range = some r → r.start ≤ c ∧ -c ≤ r.start + r.length := by
      cases n.range with
      | none => exact ⟨0, nofun⟩
      | some r =>
        refine ⟨r.start.natAbs + (r.start + r.length).natAbs, fun t ht => ?_⟩
        cases ht
        omega
    refine ⟨b + k + c, fun kind start length hkind hstart hlength => ?_⟩
    refine List.forall_mem_cons.mpr ⟨?_, hb kind start length (by omega) (by omega) (by omega)⟩
    apply Node.step_of_not
    · rintro ⟨r, hr, hnot⟩
      apply hnot
      have := hc r hr
      constructor <;> dsimp only <;> omega
    · rintro ⟨hfit, _⟩
      have := hk kind hfit
      omega

theorem exists_step_eq_descend (ns : List Node) : ∃ kind start length,
    ∀ n ∈ ns, n.step kind start length = .descend := by
  obtain ⟨b, hb⟩ := exists_bound ns
  refine ⟨String.ofList (List.replicate (b + 1) 'x'), b, -2 * b, hb _ _ _ ?_ ?_ ?_⟩
  · simp
  · omega
  · omega

end Passing

namespace Node

/-- In a tree that can be walked every search has an answer. -/
theorem Walkable.exists_findEnclosing {n : Node} (h : n.Walkable) (kind : String)
    (start length : Int) : ∃ found, n.findEnclosing kind start length = .ok found := by
  have hfaults : FaultsIn (fun _ => False) (n.findEnclosing kind start length) :=
    (enclosing_faultsIn (List.forall_mem_singleton.mpr (Or.inr h))).1
  cases hfound : n.findEnclosing kind start length with
  | ok found => exact ⟨found, rfl⟩
  | error e => exact (hfaults e hfound).elim

/-- Where every search has an answer, all nodes have their sub-nodes listed. -/
theorem exists_children_of_findEnclosing {n m : Node} (hm : m ∈ n.preorder)
    (h : ∀ kind start length, ∃ found, n.findEnclosing kind start length = .ok found) :
    ∃ cs, m.children = .ok cs := by
  by_contra hlist
  obtain ⟨kind, start, length, hpass⟩ := exists_step_eq_descend n.preorder
  have hnodes : [n].flatMap preorder = n.preorder := List.flatMap_singleton _ _
  rw [← hnodes] at hpass hm
  obtain ⟨e, he⟩ := enclosing_eq_error hpass hm fun cs hcs => hlist ⟨cs, hcs⟩
  obtain ⟨found, hfound⟩ := h kind start length
  cases he.symm.trans hfound

end Node
end AuditReport.Syntax
