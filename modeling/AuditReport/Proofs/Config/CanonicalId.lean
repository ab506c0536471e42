import AuditReport.Config.Filter
import AuditReport.Proofs.Text.Trimmed

/-!
# Rule ids of lists and of records

The ids of a list are brought to the canonical form, which is the tag and a number or name without blanks
around it. The ids of records are not, and the two are compared as they stand. So a record can be left out
by listing its id exactly if this id is canonical, and no list leaves out a record of any other id.
-/
namespace AuditReport

namespace RuleId

def IsCanonical (id : List Char) : Prop :=
  ∃ name, id = tag ++ name ∧ Text.trim name = name

theorem isCanonical_normalize (s : List Char) : IsCanonical (normalize s) := by
  simp only [normalize]
  split
  · exact ⟨_, rfl, Text.trimOf_trimOf _ _⟩
  · exact ⟨_, rfl, Text.trimOf_trimOf _ _⟩

theorem IsCanonical.trim_eq {id : List Char} (h : IsCanonical id) : Text.trim id = id := by
  obtain ⟨name, rfl, hname⟩ := h
  apply Text.trimOf_of_ends
  · rintro _ ⟨⟩
    decide
  · intro c hc
    rw [List.getLast?_append] at hc
    cases hlast : name.getLast? with
    | none =>
      rw [hlast] at hc
      cases hc
      decide
    | some d =>
      rw [hlast] at hc
      cases hc
      rw [← hname] at hlast
      exact Text.getLast?_trimOf _ hlast

/-- The canonical ids are those that normalising does not change. -/
theorem normalize_eq_self_iff {id : List Char} : normalize id = id ↔ IsCanonical id := by
  constructor
  · intro h
    rw [← h]
    exact isCanonical_normalize id
  · intro h
    have htrim := h.trim_eq
    obtain ⟨name, rfl, hname⟩ := h
    have htag : hasTag (tag ++ name) = true := rfl
    have hrest : (tag ++ name).drop 4 = name := rfl
    simp only [normalize, htrim, htag, if_true, hrest, hname]

theorem mem_listOfJson_iff {id : String} {v : Json} :
    id ∈ listOfJson v ↔ ∃ i ∈ items v, isBlankItem i = false ∧ ofJson i = id := by
  simp only [listOfJson, List.mem_map, List.mem_filter, Bool.not_eq_true', and_assoc]

theorem isCanonical_of_mem_listOfJson {id : String} {v : Json} (h : id ∈ listOfJson v) :
    IsCanonical id.toList := by
  obtain ⟨i, _, _, rfl⟩ := mem_listOfJson_iff.mp h
  rw [ofJson, String.toList_ofList]
  exact isCanonical_normalize _

theorem isBlankItem_of_isCanonical {id : String} (h : IsCanonical id.toList) :
    isBlankItem (.str id) = false := by
  rw [isBlankItem, Json.shown, h.trim_eq]
  obtain ⟨name, hid, _⟩ := h
  rw [hid]
  rfl

end RuleId

namespace Record

def LeftOutBy (r : Record) (listed : Json) : Prop :=
  ∃ f, Filter.decode (.obj [("id_blacklist", listed)]) = .ok f ∧ f.keeps r = false

theorem leftOutBy_iff {r : Record} {listed : Json} :
    r.LeftOutBy listed ↔ r.ruleId ∈ RuleId.listOfJson listed := by
  have hfilter : Filter.decode (.obj [("id_blacklist", listed)]) =
      .ok ⟨none, RuleId.listOfJson listed⟩ := rfl
  simp [LeftOutBy, hfilter, Filter.keeps]

/-- A record is left out when its own id is listed exactly if the id is canonical; else no list of any kind
leaves it out. -/
theorem leftOutBy_own_iff (r : Record) :
    (r.LeftOutBy (.arr [.str r.ruleId]) ↔ RuleId.IsCanonical r.ruleId.toList) ∧
      ((∃ listed, r.LeftOutBy listed) ↔ RuleId.IsCanonical r.ruleId.toList) := by
  have hcanonical : ∀ listed, r.LeftOutBy listed → RuleId.IsCanonical r.ruleId.toList := by
    intro listed h
    exact RuleId.isCanonical_of_mem_listOfJson (leftOutBy_iff.mp h)
  have hown : RuleId.IsCanonical r.ruleId.toList → r.LeftOutBy (.arr [.str r.ruleId]) := by
    intro h
    rw [leftOutBy_iff, RuleId.mem_listOfJson_iff]
    refine ⟨.str r.ruleId, List.mem_cons_self, RuleId.isBlankItem_of_isCanonical h, ?_⟩
    rw [RuleId.ofJson, Json.shown, RuleId.normalize_eq_self_iff.mpr h, String.ofList_toList]
  exact ⟨⟨hcanonical _, hown⟩, ⟨fun ⟨listed, h⟩ => hcanonical listed h, fun h => ⟨_, hown h⟩⟩⟩

/-- An id that is given without the tag gets it in the list, but not in the record. -/
theorem not_forall_leftOutBy_own : ¬ ∀ r : Record, Text.trim r.ruleId.toList ≠ [] →
    r.LeftOutBy (.arr [.str r.ruleId]) := by
  intro h
  have hlisted := leftOutBy_iff.mp (h ⟨"101", "m", 1, none, 1, 0, none, none, false⟩ (by decide))
  exact absurd hlisted (by decide)

end Record
end AuditReport
