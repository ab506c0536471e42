import AuditReport.Config.Options
import Mathlib.Data.List.Nodup

/-!
# Options over options of the project

Where options are given with every key once, the merged options have each of them that is not null,
and else the option of the project.
-/
namespace AuditReport

namespace Table

variable {α : Type}

theorem get?_cons (e : String × α) (t : Table α) (key : String) :
    get? (e :: t) key = if e.1 = key then some e.2 else get? t key := by
  unfold get?
  by_cases h : e.1 = key <;> simp [h]

theorem get?_eq_none_iff {t : Table α} {key : String} : get? t key = none ↔ key ∉ t.keys := by
  simp only [get?, keys, Option.map_eq_none_iff, List.find?_eq_none, beq_iff_eq, List.mem_map,
    not_exists, not_and]

theorem get?_of_mem {t : Table α} (ht : t.keys.Nodup) {key : String} {a : α} (h : (key, a) ∈ t) :
    get? t key = some a := by
  induction t with
  | nil => cases h
  | cons e t ih =>
    obtain ⟨he, ht⟩ := List.nodup_cons.mp ht
    rw [get?_cons]
    rcases List.mem_cons.mp h with rfl | h
    · exact if_pos rfl
    · have hne : e.1 ≠ key := fun hkey => he (List.mem_map.mpr ⟨_, h, hkey.symm⟩)
      rw [if_neg hne, ih ht h]

theorem get?_putAll {more : Table α} (hmore : more.keys.Nodup) (t : Table α) (key : String) :
    get? (putAll t more) key = (get? more key).or (get? t key) := by
  induction more generalizing t with
  | nil => rfl
  | cons e more ih =>
    obtain ⟨he, hmore⟩ := List.nodup_cons.mp hmore
    change get? (putAll (put e.1 e.2 t) more) key = _
    rw [ih hmore, get?_cons]
    split_ifs with hkey
    · subst hkey
      rw [get?_eq_none_iff.mpr he, get?_put_self]
      rfl
    · rw [get?_put_of_ne t e.2 (Ne.symm hkey)]

theorem get?_filter {t : Table α} (ht : t.keys.Nodup) (p : α → Bool) (key : String) :
    get? (t.filter fun e => p e.2) key = (get? t key).filter p := by
  induction t with
  | nil => rfl
  | cons e t ih =>
    obtain ⟨he, ht⟩ := List.nodup_cons.mp ht
    rw [get?_cons]
    by_cases hp : p e.2 = true
    · rw [List.filter_cons, if_pos hp, get?_cons, ih ht]
      split_ifs
      · rw [Option.filter_some, if_pos hp]
      · rfl
    · rw [List.filter_cons, if_neg hp, ih ht]
      split_ifs with hkey
      · subst hkey
        rw [get?_eq_none_iff.mpr he, Option.filter_some, if_neg hp]
        rfl
      · rfl

end Table

namespace ReportConfig

/-- The value that counts for a key: that of the option, unless it is null. -/
def chosen (options project : Json.Fields) (key : String) : Json :=
  if (Json.valueOf options key).isNull then Json.valueOf project key else Json.valueOf options key

theorem chosen_nil_left (fs : Json.Fields) : chosen [] fs = Json.valueOf fs :=
  rfl

theorem chosen_nil_right (fs : Json.Fields) : chosen fs [] = Json.valueOf fs := by
  funext key
  unfold chosen
  cases Json.valueOf fs key <;> rfl

theorem valueOf_merge {options : Json.Fields} (h : options.keys.Nodup) (project : Json.Fields) :
    Json.valueOf (merge options project) = chosen options project := by
  funext key
  have hgiven : (Table.keys (options.filter fun o => !o.2.isNull)).Nodup :=
    h.sublist ((List.filter_sublist).map _)
  rw [chosen, Json.valueOf, merge, Table.get?_putAll hgiven, Table.get?_filter h (fun v => !v.isNull),
    Json.valueOf]
  cases Table.get? options key with
  | none => rfl
  | some v => cases hv : v.isNull <;> simp [hv, Json.valueOf, Option.filter_some]

end ReportConfig
end AuditReport
