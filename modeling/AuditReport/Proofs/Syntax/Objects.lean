import AuditReport.Proofs.Config.Merge
import AuditReport.Syntax.Node

/-!
# Objects as nodes

An object can be read as a node in either schema. In the compact schema the objects below it are the
tagged ones among its values and among the items of lists there; in the legacy schema they are the items
of its `children` entry.
-/
namespace AuditReport.Syntax

def taggedFields? : Json → Option Json.Fields
  | .obj fs => if Table.has fs "nodeType" then some fs else none
  | _ => none

def partsOfValue : Json → List Json.Fields
  | .arr items => items.filterMap taggedFields?
  | v => (taggedFields? v).toList

def compactParts (fs : Json.Fields) : List Json.Fields :=
  fs.flatMap fun e => partsOfValue e.2

/-- The objects among the items of a value; none when it cannot be walked. -/
def itemFields? : Json → Option (List Json.Fields)
  | .arr items => some (items.filterMap Json.fields?)
  | v => if isWalkable v then some [] else none

def legacyParts? (fs : Json.Fields) : Option (List Json.Fields) :=
  itemFields? (Json.valueOf fs "children")

theorem has_of_text? {fs : Json.Fields} {key : String}
    (h : (Json.valueOf fs key).text?.isSome = true) : Table.has fs key = true := by
  by_contra hnot
  have hget : Table.get? fs key = none := by
    rw [Table.get?_eq_none_iff]
    intro hmem
    obtain ⟨e, he, hkey⟩ := List.mem_map.mp hmem
    exact hnot (List.any_eq_true.mpr ⟨e, he, beq_iff_eq.mpr hkey⟩)
  rw [Json.valueOf, hget] at h
  cases h

namespace Node

def ofCompact (fs : Json.Fields) : Node :=
  .compact (compactLabel fs) (declaredType fs) (isWritten fs "length") (nodesOfFields fs)

def ofLegacy (fs : Json.Fields) : Node :=
  match legacyChildren fs with
  | some cs => .legacy (legacyLabel fs) cs
  | none => .unwalkable (legacyLabel fs)

theorem ofCompact?_eq (v : Json) : ofCompact? v = (taggedFields? v).map ofCompact := by
  cases v with
  | obj fs =>
    rw [ofCompact?, taggedFields?]
    split <;> rfl
  | _ => rfl

theorem ofLegacy?_eq (v : Json) : ofLegacy? v = v.fields?.map ofLegacy := by
  cases v with
  | obj fs =>
    rw [ofLegacy?, Json.fields?, Option.map_some, ofLegacy]
    cases legacyChildren fs <;> rfl
  | _ => rfl

/-- A root is read in the compact schema if it is tagged by a text. -/
theorem ofRoot?_eq (fs : Json.Fields) : ofRoot? (.obj fs) =
    if (compactLabel fs).kind.isSome then some (ofCompact fs)
    else if (legacyLabel fs).kind.isSome && (Table.has fs "children" || Table.has fs "attributes")
      then some (ofLegacy fs)
    else none := by
  have hlegacy : ofLegacy? (.obj fs) = some (ofLegacy fs) := ofLegacy?_eq (.obj fs)
  have hcompact : (compactLabel fs).kind.isSome = true → ofCompact? (.obj fs) = some (ofCompact fs) := by
    intro hkind
    rw [ofCompact?_eq, taggedFields?, if_pos (has_of_text? hkind)]
    rfl
  change (if (compactLabel fs).kind.isSome then ofCompact? (.obj fs) else
    if (legacyLabel fs).kind.isSome && _ then ofLegacy? (.obj fs) else none) = _
  rw [hlegacy]
  split_ifs with hkind
  · exact hcompact hkind
  · rfl
  · rfl

end Node

theorem nodesOfItems_eq (items : List Json) :
    nodesOfItems items = (items.filterMap taggedFields?).map Node.ofCompact := by
  induction items with
  | nil => rfl
  | cons v items ih =>
    rw [nodesOfItems, ih, Node.ofCompact?_eq]
    cases h : taggedFields? v <;> simp [h]

theorem nodesOfFields_eq (fs : Json.Fields) :
    nodesOfFields fs = (compactParts fs).map Node.ofCompact := by
  induction fs with
  | nil => rfl
  | cons e fs ih =>
    obtain ⟨key, v⟩ := e
    have hparts : compactParts ((key, v) :: fs) = partsOfValue v ++ compactParts fs := rfl
    rw [hparts, List.map_append, ← ih]
    cases v with
    | arr items => rw [nodesOfFields, nodesOfItems_eq, partsOfValue]
    | obj gs =>
      rw [nodesOfFields, Node.ofCompact?_eq, partsOfValue]
      · cases taggedFields? (.obj gs) <;> rfl
      all_goals nofun
    | _ => rfl

theorem legacyItems_eq (items : List Json) :
    legacyItems items = (items.filterMap Json.fields?).map Node.ofLegacy := by
  induction items with
  | nil => rfl
  | cons v items ih =>
    rw [legacyItems, ih, Node.ofLegacy?_eq]
    cases h : v.fields? <;> simp [h]

theorem legacyChildren_eq (fs : Json.Fields) :
    legacyChildren fs = (legacyParts? fs).map (List.map Node.ofLegacy) := by
  induction fs with
  | nil => rfl
  | cons e fs ih =>
    obtain ⟨key, v⟩ := e
    by_cases hkey : key = "children"
    · have hvalue : Json.valueOf ((key, v) :: fs) "children" = v := by
        rw [Json.valueOf, Table.get?_cons, if_pos hkey]
        rfl
      rw [legacyParts?, hvalue]
      cases v with
      | arr items =>
        rw [legacyChildren, if_pos hkey, legacyItems_eq]
        rfl
      | _ =>
        rw [legacyChildren, if_pos hkey, itemFields?]
        · rw [apply_ite (Option.map (List.map Node.ofLegacy))]
          rfl
        all_goals exact fun _ h => Json.noConfusion h
    · have hvalue : Json.valueOf ((key, v) :: fs) "children" = Json.valueOf fs "children" := by
        rw [Json.valueOf, Table.get?_cons, if_neg hkey]
        rfl
      rw [legacyParts?, hvalue, ← legacyParts?, ← ih]
      cases v with
      | arr items => rw [legacyChildren, if_neg hkey]
      | _ =>
        rw [legacyChildren, if_neg hkey]
        all_goals exact fun _ h => Json.noConfusion h

namespace Node

@[simp] theorem label_ofCompact (fs : Json.Fields) : (ofCompact fs).label = compactLabel fs := rfl

@[simp] theorem label_ofLegacy (fs : Json.Fields) : (ofLegacy fs).label = legacyLabel fs := by
  rw [ofLegacy]
  cases legacyChildren fs <;> rfl

theorem children_ofCompact (fs : Json.Fields) :
    (ofCompact fs).children = .ok ((compactParts fs).map ofCompact) := by
  rw [ofCompact, children, nodesOfFields_eq]

theorem ofLegacy_eq {fs : Json.Fields} {ps : List Json.Fields} (h : legacyParts? fs = some ps) :
    ofLegacy fs = .legacy (legacyLabel fs) (ps.map ofLegacy) := by
  rw [ofLegacy, legacyChildren_eq, h]
  rfl

theorem children_ofLegacy {fs : Json.Fields} {ps : List Json.Fields}
    (h : legacyParts? fs = some ps) : (ofLegacy fs).children = .ok (ps.map ofLegacy) := by
  rw [ofLegacy_eq h, children]

end Node

end AuditReport.Syntax
