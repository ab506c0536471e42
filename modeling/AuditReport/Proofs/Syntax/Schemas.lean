import AuditReport.Proofs.Syntax.Objects
import AuditReport.Proofs.Syntax.SearchedTree

/-!
# The two schemas agree

A compact and a legacy object correspond when they tell the same in their schemas, down to the leaves. A
search then ends at one place of both trees, a declaration is that of an open array in both or in neither,
and so the same entries can be ignored whichever schema a compiler wrote.
-/
namespace AuditReport.Syntax

structure SameEntries (compact legacy : Json.Fields) : Prop where
  kind : (compactLabel compact).kind = (legacyLabel legacy).kind
  src : Json.valueOf compact "src" = Json.valueOf legacy "src"
  stateVariable : Json.valueOf compact "stateVariable" =
    Json.valueOf (entriesAt legacy "attributes") "stateVariable"
  visibility : Json.valueOf compact "visibility" =
    Json.valueOf (entriesAt legacy "attributes") "visibility"
  /-- The type of a declaration is its first sub-node, if it has one. -/
  declared : (compactLabel compact).kind = some variableDeclaration →
    (Json.valueOf compact "typeName").fields? = (compactParts compact).head?
  /-- An array type has a length if something comes after the type of its items. -/
  sized : (compactLabel compact).kind = some arrayTypeName →
    (isWritten compact "length" = true ↔ 1 < (compactParts compact).length)

inductive Corresponds : Json.Fields → Json.Fields → Prop where
  | intro {compact legacy : Json.Fields} {parts : List Json.Fields}
      (entries : SameEntries compact legacy) (listed : legacyParts? legacy = some parts)
      (length : (compactParts compact).length = parts.length)
      (below : ∀ (i : Nat) (p q : Json.Fields), (compactParts compact)[i]? = some p →
        parts[i]? = some q → Corresponds p q) : Corresponds compact legacy

/-- The object at a place, which tells for each level the position of the part to go on in. -/
def compactAt? (fs : Json.Fields) : List Nat → Option Json.Fields
  | [] => some fs
  | i :: place => (compactParts fs)[i]?.bind (compactAt? · place)

def legacyAt? (fs : Json.Fields) : List Nat → Option Json.Fields
  | [] => some fs
  | i :: place => ((legacyParts? fs).bind (·[i]?)).bind (legacyAt? · place)

/-- Two searches for a kind of node find nothing, or what they find is of that kind, stands at one
place of both trees and corresponds again. -/
inductive SameFind (kind : String) (compact legacy : Json.Fields) :
    Except Fault (Option Node) → Except Fault (Option Node) → Prop where
  | nothing : SameFind kind compact legacy (.ok none) (.ok none)
  | found (place : List Nat) {p q : Json.Fields} (hcompact : compactAt? compact place = some p)
      (hlegacy : legacyAt? legacy place = some q) (hkind : (compactLabel p).kind = some kind)
      (h : Corresponds p q) :
      SameFind kind compact legacy (.ok (some (.ofCompact p))) (.ok (some (.ofLegacy q)))

inductive SameTree : Node → Node → Prop where
  | intro {compact legacy : Json.Fields} (h : Corresponds compact legacy) :
      SameTree (.ofCompact compact) (.ofLegacy legacy)

def SameTrees : Table Node → Table Node → Prop :=
  List.Forall₂ fun t u => t.1 = u.1 ∧ SameTree t.2 u.2

variable {compact legacy : Json.Fields}

namespace SameEntries

theorem range (h : SameEntries compact legacy) :
    (compactLabel compact).range = (legacyLabel legacy).range := by
  simp only [compactLabel, legacyLabel, labelOf, h.src]

theorem isStateVariable (h : SameEntries compact legacy) :
    (compactLabel compact).isStateVariable = (legacyLabel legacy).isStateVariable := by
  simp only [compactLabel, legacyLabel, labelOf, isTrue, h.stateVariable]

theorem step (h : SameEntries compact legacy) (kind : String) (start length : Int) :
    (Node.ofCompact compact).step kind start length =
      (Node.ofLegacy legacy).step kind start length := by
  simp only [Node.step, Node.range, Node.kind, Node.label_ofCompact, Node.label_ofLegacy, h.range,
    h.kind]

end SameEntries

theorem Node.kind_of_step_take {n : Node} {kind : String} {start length : Int}
    (h : n.step kind start length = .take) : n.kind = some kind := by
  unfold Node.step at h
  split at h
  · cases h
  · split_ifs at h with _ hkind
    exact hkind

/-- Of lists of parts, what is found first is found at one position of both. -/
theorem searchAll_sameFind {kind : String} {start length : Int} {ps qs : List Json.Fields}
    (hlength : ps.length = qs.length)
    (h : ∀ (i : Nat) (p q : Json.Fields), ps[i]? = some p → qs[i]? = some q →
      SameFind kind p q ((Node.ofCompact p).search kind start length)
        ((Node.ofLegacy q).search kind start length)) :
    (searchAll kind start length (ps.map .ofCompact) = .ok none ∧
      searchAll kind start length (qs.map .ofLegacy) = .ok none) ∨
    ∃ (i : Nat) (p q : Json.Fields), ps[i]? = some p ∧ qs[i]? = some q ∧
      SameFind kind p q (searchAll kind start length (ps.map .ofCompact))
        (searchAll kind start length (qs.map .ofLegacy)) := by
  induction ps generalizing qs with
  | nil =>
    cases List.eq_nil_of_length_eq_zero hlength.symm
    exact Or.inl ⟨rfl, rfl⟩
  | cons p ps ih =>
    cases qs with
    | nil => cases hlength
    | cons q qs =>
      have hfirst := h 0 p q rfl rfl
      have hrest := ih (Nat.succ.inj hlength) fun i => h (i + 1)
      simp only [List.map_cons, searchAll]
      generalize (Node.ofCompact p).search kind start length = x at hfirst
      generalize (Node.ofLegacy q).search kind start length = y at hfirst
      cases hfirst with
      | nothing =>
        rcases hrest with hnone | ⟨i, p', q', hp, hq, hsame⟩
        · exact Or.inl hnone
        · exact Or.inr ⟨i + 1, p', q', hp, hq, hsame⟩
      | found place hcompact hlegacy hkind hpq =>
        exact Or.inr ⟨0, p, q, rfl, rfl, .found place hcompact hlegacy hkind hpq⟩

namespace Corresponds

theorem search (h : Corresponds compact legacy) (kind : String) (start length : Int) :
    SameFind kind compact legacy ((Node.ofCompact compact).search kind start length)
      ((Node.ofLegacy legacy).search kind start length) := by
  induction h with
  | intro entries listed hlength below ih =>
    rename_i compact legacy parts
    rw [Node.search_eq, Node.search_eq, ← entries.step]
    cases hstep : (Node.ofCompact compact).step kind start length with
    | leave => exact .nothing
    | take =>
      have hroot : Corresponds compact legacy := .intro entries listed hlength below
      exact .found [] rfl rfl (Node.kind_of_step_take hstep) hroot
    | descend =>
      simp only [Node.children_ofCompact, Node.children_ofLegacy listed]
      rcases searchAll_sameFind hlength ih with ⟨hc, hl⟩ | ⟨i, p, q, hp, hq, hsame⟩
      · rw [hc, hl]
        exact .nothing
      · -- What is found below a part is found below the root, one level down.
        generalize searchAll kind start length _ = x at hsame ⊢
        generalize searchAll kind start length _ = y at hsame ⊢
        cases hsame with
        | nothing => exact .nothing
        | found place hcompact hlegacy hkind hpq =>
          refine .found (i :: place) ?_ ?_ hkind hpq
          · rw [compactAt?, hp]
            exact hcompact
          · rw [legacyAt?, listed]
            simpa only [Option.bind_some, hq] using hlegacy

end Corresponds

/-- What an open array is, where the declared type can be told. -/
theorem Node.isOpenArray_eq_ok {n : Node} {declared : Option (Option String)} {fixed : Bool}
    (hdeclared : n.declaredKind = .ok declared)
    (hfixed : declared = some (some arrayTypeName) → n.declaredLength = .ok fixed) :
    n.isOpenArray = .ok (n.label.isStateVariable && isPublic n.label.visibility &&
      decide (declared = some (some arrayTypeName)) && !fixed) := by
  unfold isOpenArray
  cases n.label.isStateVariable && isPublic n.label.visibility with
  | false => rfl
  | true =>
    rw [if_pos rfl, hdeclared]
    by_cases harray : declared = some (some arrayTypeName)
    · rw [hfixed harray]
      simp [bind, Except.bind, harray, pure, Except.pure]
    · simp [bind, Except.bind, harray, pure, Except.pure]

theorem SameEntries.isOpenArray (h : SameEntries compact legacy) {declared : Option (Option String)}
    {fixed : Bool} (hcompact : (Node.ofCompact compact).declaredKind = .ok declared)
    (hlegacy : (Node.ofLegacy legacy).declaredKind = .ok declared)
    (hfixed : declared = some (some arrayTypeName) →
      (Node.ofCompact compact).declaredLength = .ok fixed ∧
        (Node.ofLegacy legacy).declaredLength = .ok fixed) :
    ∃ b, (Node.ofCompact compact).isOpenArray = .ok b ∧
      (Node.ofLegacy legacy).isOpenArray = .ok b := by
  refine ⟨_, Node.isOpenArray_eq_ok hcompact fun harray => (hfixed harray).1, ?_⟩
  rw [Node.isOpenArray_eq_ok hlegacy fun harray => (hfixed harray).2, Node.label_ofCompact,
    Node.label_ofLegacy, h.isStateVariable]
  simp only [compactLabel, legacyLabel, labelOf, h.visibility]

namespace Corresponds

theorem kind (h : Corresponds compact legacy) :
    (compactLabel compact).kind = (legacyLabel legacy).kind := by
  cases h with
  | intro entries => exact entries.kind

/-- The length entry of an array type tells the same as the number of its legacy sub-nodes. -/
theorem hasFixedLength (h : Corresponds compact legacy)
    (hkind : (compactLabel compact).kind = some arrayTypeName) :
    (Node.ofLegacy legacy).hasFixedLength = .ok (isWritten compact "length") := by
  cases h with
  | intro entries listed hlength =>
    rw [Node.ofLegacy_eq listed, Node.hasFixedLength, List.length_map, Except.ok.injEq,
      Bool.eq_iff_iff, entries.sized hkind, hlength, decide_eq_true_iff]

theorem isOpenArray (h : Corresponds compact legacy)
    (hkind : (compactLabel compact).kind = some variableDeclaration) :
    ∃ b, (Node.ofCompact compact).isOpenArray = .ok b ∧
      (Node.ofLegacy legacy).isOpenArray = .ok b := by
  cases h with
  | intro entries listed hlength below =>
    rename_i parts
    have htype : declaredType compact = (compactParts compact).head?.map fun p =>
        ⟨(compactLabel p).kind, isWritten p "length"⟩ := by
      rw [declaredType, entries.declared hkind]
      rfl
    cases hps : compactParts compact with
    | nil =>
      rw [hps] at htype hlength
      cases List.eq_nil_of_length_eq_zero hlength.symm
      have hcompact : (Node.ofCompact compact).declaredKind = .ok none := by
        rw [Node.ofCompact, Node.declaredKind, htype]
        rfl
      have hlegacy : (Node.ofLegacy legacy).declaredKind = .ok none := by
        rw [Node.ofLegacy_eq listed]
        rfl
      have hfixed : (none : Option (Option String)) = some (some arrayTypeName) →
          (Node.ofCompact compact).declaredLength = .ok false ∧
            (Node.ofLegacy legacy).declaredLength = .ok false := by
        intro harray
        cases harray
      exact entries.isOpenArray hcompact hlegacy hfixed
    | cons p ps =>
      rw [hps] at htype hlength below
      cases parts with
      | nil => cases hlength
      | cons q qs =>
        have hpq := below 0 p q rfl rfl
        have hcompact : (Node.ofCompact compact).declaredKind = .ok (some (compactLabel p).kind) := by
          rw [Node.ofCompact, Node.declaredKind, htype]
          rfl
        have hlegacy : (Node.ofLegacy legacy).declaredKind = .ok (some (compactLabel p).kind) := by
          rw [Node.ofLegacy_eq listed, Node.declaredKind, hpq.kind, ← Node.label_ofLegacy]
          rfl
        have hfixed : some (compactLabel p).kind = some (some arrayTypeName) →
            (Node.ofCompact compact).declaredLength = .ok (isWritten p "length") ∧
              (Node.ofLegacy legacy).declaredLength = .ok (isWritten p "length") := by
          intro harray
          constructor
          · rw [Node.ofCompact, Node.declaredLength, htype]
            rfl
          · rw [Node.ofLegacy_eq listed]
            exact hpq.hasFixedLength (Option.some.inj harray)
        exact entries.isOpenArray hcompact hlegacy hfixed

end Corresponds

section Rel

variable {α β : Type} {R : α → β → Prop} {t : Table α} {u : Table β}

theorem firstWhere_rel (h : List.Forall₂ (fun e f => e.1 = f.1 ∧ R e.2 f.2) t u)
    (p : String → Bool) : Option.Rel R (t.firstWhere p) (u.firstWhere p) := by
  induction h with
  | nil => exact .none
  | @cons e f t u hef _ ih =>
    obtain ⟨hkey, hvalue⟩ := hef
    unfold Table.firstWhere at ih ⊢
    simp only [List.find?_cons, ← hkey]
    cases p e.1 with
    | true => exact .some hvalue
    | false => exact ih

theorem byName?_rel (h : List.Forall₂ (fun e f => e.1 = f.1 ∧ R e.2 f.2) t u) (name : String) :
    Option.Rel R (t.byName? name) (u.byName? name) := by
  rw [Table.byName?_eq, Table.byName?_eq]
  have hexact := firstWhere_rel h (· == name)
  generalize t.firstWhere (· == name) = x at hexact ⊢
  generalize u.firstWhere (· == name) = y at hexact ⊢
  cases hexact with
  | none =>
    rw [Option.none_or, Option.none_or]
    exact firstWhere_rel h _
  | some hvalue => exact .some hvalue

end Rel

theorem Corresponds.findEnclosing (h : Corresponds compact legacy) (kind : String)
    (start length : Int) :
    SameFind kind compact legacy ((Node.ofCompact compact).findEnclosing kind start length)
      ((Node.ofLegacy legacy).findEnclosing kind start length) := by
  rw [Node.findEnclosing_eq_search, Node.findEnclosing_eq_search]
  exact h.search kind start length

theorem isIgnorable_of_sameTrees {trees others : Table Node} (h : SameTrees trees others)
    (e : SourceMap.Entry) (source : String) :
    isIgnorable trees e source = isIgnorable others e source ∧
      ∃ b, (isIgnorable trees e source).outcome = .ok b := by
  unfold isIgnorable
  cases e.hasSource with
  | false => exact ⟨rfl, false, rfl⟩
  | true =>
    have htree := byName?_rel (R := SameTree) h source
    simp only [if_true]
    generalize trees.byName? source = x at htree ⊢
    generalize others.byName? source = y at htree ⊢
    cases htree with
    | none => exact ⟨rfl, false, rfl⟩
    | some hpair =>
      obtain ⟨hpair⟩ := hpair
      rename_i compact legacy
      have hfind := hpair.findEnclosing variableDeclaration e.start e.length
      dsimp only
      generalize (Node.ofCompact compact).findEnclosing _ _ _ = x at hfind ⊢
      generalize (Node.ofLegacy legacy).findEnclosing _ _ _ = y at hfind ⊢
      cases hfind with
      | nothing => exact ⟨rfl, false, rfl⟩
      | found _ _ _ hkind hpq =>
        obtain ⟨b, hcompact, hlegacy⟩ := hpq.isOpenArray hkind
        refine ⟨?_, b, ?_⟩
        · simp only [Noted.lift_ok_bind, hcompact, hlegacy]
        · simp only [Noted.lift_ok_bind, hcompact]
          cases b <;> rfl

/-- Corresponding trees are searched alike, corresponding declarations are those of open arrays alike,
and the same entries can be ignored. -/
theorem schemas_agree :
    (∀ compact legacy, Corresponds compact legacy → ∀ kind start length,
      SameFind kind compact legacy ((Node.ofCompact compact).findEnclosing kind start length)
        ((Node.ofLegacy legacy).findEnclosing kind start length)) ∧
    (∀ compact legacy, Corresponds compact legacy →
      (Node.ofCompact compact).kind = some variableDeclaration →
      ∃ b, (Node.ofCompact compact).isOpenArray = .ok b ∧
        (Node.ofLegacy legacy).isOpenArray = .ok b) ∧
    ∀ trees others, SameTrees trees others → ∀ e source,
      isIgnorable trees e source = isIgnorable others e source ∧
        ∃ b, (isIgnorable trees e source).outcome = .ok b :=
  ⟨fun _ _ h => h.findEnclosing, fun _ _ h => h.isOpenArray,
    fun _ _ h => isIgnorable_of_sameTrees h⟩

theorem Corresponds.of_forall₂ {parts : List Json.Fields} (entries : SameEntries compact legacy)
    (listed : legacyParts? legacy = some parts)
    (below : List.Forall₂ Corresponds (compactParts compact) parts) : Corresponds compact legacy := by
  apply Corresponds.intro entries listed below.length_eq
  intro i p q hp hq
  obtain ⟨hi, rfl⟩ := List.getElem?_eq_some_iff.mp hp
  obtain ⟨hj, rfl⟩ := List.getElem?_eq_some_iff.mp hq
  exact below.get hi hj

def arrayInCompact : Json.Fields :=
  [("id", .int 2), ("nodeType", .str "VariableDeclaration"), ("src", .str "13:19:0"),
    ("stateVariable", .bool true), ("visibility", .str "public"),
    ("typeName", .obj [("nodeType", .str "ArrayTypeName"), ("src", .str "13:6:0"),
      ("baseType", .obj [("nodeType", .str "ElementaryTypeName"), ("src", .str "13:4:0")]),
      ("length", .null)])]

def arrayInLegacy : Json.Fields :=
  [("name", .str "VariableDeclaration"), ("src", .str "13:19:0"),
    ("attributes", .obj [("stateVariable", .bool true), ("visibility", .str "public")]),
    ("children", .arr [.obj [("name", .str "ArrayTypeName"), ("src", .str "13:6:0"),
      ("children", .arr [.obj [("name", .str "ElementaryTypeName"), ("src", .str "13:4:0")]])]])]

theorem corresponds_array : Corresponds arrayInCompact arrayInLegacy := by
  apply Corresponds.of_forall₂ _ rfl
  · refine .cons ?_ .nil
    apply Corresponds.of_forall₂ _ rfl
    · refine .cons ?_ .nil
      apply Corresponds.of_forall₂ _ rfl .nil
      exact ⟨rfl, rfl, rfl, rfl, fun h => absurd h (by decide), fun h => absurd h (by decide)⟩
    · exact ⟨rfl, rfl, rfl, rfl, fun h => absurd h (by decide), fun _ => by decide⟩
  · exact ⟨rfl, rfl, rfl, rfl, fun _ => rfl, fun h => absurd h (by decide)⟩

def contractInCompact : Json.Fields :=
  [("nodeType", .str "ContractDefinition"), ("src", .str "0:40:0"),
    ("nodes", .arr [.obj arrayInCompact])]

def contractInLegacy : Json.Fields :=
  [("name", .str "ContractDefinition"), ("src", .str "0:40:0"),
    ("children", .arr [.obj arrayInLegacy])]

theorem corresponds_contract : Corresponds contractInCompact contractInLegacy := by
  apply Corresponds.of_forall₂ _ rfl
  · exact .cons corresponds_array .nil
  · exact ⟨rfl, rfl, rfl, rfl, fun h => absurd h (by decide), fun h => absurd h (by decide)⟩

/-- In both schemas the array is found in the contract and an entry inside it can be ignored. -/
theorem contract_schemas_agree :
    Node.ofRoot? (.obj contractInCompact) = some (.ofCompact contractInCompact) ∧
    Node.ofRoot? (.obj contractInLegacy) = some (.ofLegacy contractInLegacy) ∧
    SameFind variableDeclaration contractInCompact contractInLegacy
      (.ok (some (.ofCompact arrayInCompact))) (.ok (some (.ofLegacy arrayInLegacy))) ∧
    (∃ b, (Node.ofCompact arrayInCompact).isOpenArray = .ok b ∧
      (Node.ofLegacy arrayInLegacy).isOpenArray = .ok b) ∧
    (isIgnorable [("a.sol", .ofLegacy contractInLegacy)] ⟨15, 3, 0, .regular⟩ "a.sol").outcome =
      .ok true := by
  obtain ⟨hfind, harray, hignorable⟩ := schemas_agree
  have hroots := Node.ofRoot?_eq contractInCompact
  have hrootl := Node.ofRoot?_eq contractInLegacy
  have hf := hfind _ _ corresponds_contract variableDeclaration 15 3
  rw [Node.findEnclosing_eq_search, Node.findEnclosing_eq_search] at hf
  have htrees : SameTrees [("a.sol", .ofCompact contractInCompact)]
      [("a.sol", .ofLegacy contractInLegacy)] := .cons ⟨rfl, .intro corresponds_contract⟩ .nil
  refine ⟨hroots, hrootl, hf, harray _ _ corresponds_array rfl, ?_⟩
  rw [← (hignorable _ _ htrees ⟨15, 3, 0, .regular⟩ "a.sol").1, outcome_isIgnorable]
  have hanswer : answer [("a.sol", .ofCompact contractInCompact)] ⟨15, 3, 0, .regular⟩ "a.sol" =
    (Node.ofCompact contractInCompact).hasOpenArrayAt ⟨15, 3, 0, .regular⟩ := rfl
  rw [hanswer, Node.hasOpenArrayAt, Node.findEnclosing_eq_search]
  rfl

end AuditReport.Syntax
