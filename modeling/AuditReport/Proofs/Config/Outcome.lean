import AuditReport.Proofs.Config.Merge
import AuditReport.Proofs.Json.KeyedOnce
import AuditReport.Proofs.Noted

/-!
# What options come to

A configuration depends on nothing but the value that each key has once the options are put over those of
the project. Its faults are told as faults of the configuration, whatever the values are, with one
exception: no check foresees a debug level that is infinite.
-/
namespace AuditReport

namespace ReportConfig

structure IsMerged (options project merged : Json.Fields) : Prop where
  once : merged.keys.Nodup
  value : ∀ key, Json.valueOf merged key = chosen options project key

/-- A configuration is made, with a threshold of 1 or 2, or a fault of it is told; and it is the same
with the options in one object. -/
structure Answered (options project : Json.Fields) : Prop where
  outcome : (∃ c l, build options project = .ok c ∧ c.filter.threshold = some l ∧
      (l.toInt = 1 ∨ l.toInt = 2)) ∨
    ∃ flaw, build options project = .error (.config flaw)
  exists_merged : ∃ merged, IsMerged options project merged
  of_merged : ∀ merged, IsMerged options project merged →
    build merged [] = build options project ∧ build [] merged = build options project

structure InfiniteDebug (options project : Json.Fields) : Prop where
  infinite : ∃ negative, chosen options project "debug" = .real (.infinite negative)
  reached : ∀ n, chosen options project "min-severity" = .int n → n = 1 ∨ n = 2

section Merged

variable {options project merged : Json.Fields}

theorem isMerged_merge (ho : options.keys.Nodup) (hp : project.keys.Nodup) :
    IsMerged options project (merge options project) :=
  ⟨Table.nodup_keys_putAll hp _, congrFun (valueOf_merge ho project)⟩

def ofValues (value : String → Json) : Except Fault ReportConfig := do
  let level ← threshold (value "min-severity")
  let blacklist := RuleId.listOfJson (value "swc-blacklist")
  let debug ← wholeNumber ((value "debug").orElse (.int 0))
  let style ← styleName (value "style")
  return ⟨style, debug, ⟨some level, blacklist⟩⟩

theorem build_eq (ho : options.keys.Nodup) :
    build options project = ofValues (chosen options project) := by
  rw [← valueOf_merge ho]
  rfl

theorem IsMerged.build_eq (h : IsMerged options project merged) (ho : options.keys.Nodup) :
    build merged [] = build options project ∧ build [] merged = build options project := by
  have hvalues : Json.valueOf merged = chosen options project := funext h.value
  have hnil : (Table.keys ([] : Json.Fields)).Nodup := List.nodup_nil
  rw [ReportConfig.build_eq h.once, ReportConfig.build_eq hnil, ReportConfig.build_eq ho,
    chosen_nil_left, chosen_nil_right, hvalues]
  exact ⟨rfl, rfl⟩

end Merged

section Values

variable {v : Json}

def IsConfigFault (e : Fault) : Prop :=
  ∃ flaw, e = .config flaw

theorem threshold_faultsIn (v : Json) : FaultsIn IsConfigFault (threshold v) := by
  unfold threshold
  split
  · split
    · exact FaultsIn.ok _
    · exact FaultsIn.error ⟨_, rfl⟩
  · exact FaultsIn.ok _

theorem wholeNumber_faultsIn (h : ∀ negative, v ≠ .real (.infinite negative)) :
    FaultsIn IsConfigFault (wholeNumber v) := by
  cases v with
  | null | bool b | int n => exact FaultsIn.ok _
  | real x =>
    cases x with
    | nan => exact FaultsIn.error ⟨_, rfl⟩
    | infinite negative => exact absurd rfl (h negative)
    | finite s m p => exact FaultsIn.ok _
  | str s =>
    simp only [wholeNumber]
    split
    · exact FaultsIn.ok _
    · exact FaultsIn.error ⟨_, rfl⟩
  | arr items => exact FaultsIn.error ⟨_, rfl⟩
  | obj fs => exact FaultsIn.error ⟨_, rfl⟩

theorem styleName_faultsIn (v : Json) : FaultsIn IsConfigFault (styleName v) := by
  unfold styleName
  split
  · exact FaultsIn.ok _
  · exact FaultsIn.error ⟨_, rfl⟩

theorem exists_threshold_iff : (∃ l, threshold v = .ok l) ↔ ∀ n, v = .int n → n = 1 ∨ n = 2 := by
  cases v with
  | int n =>
    by_cases h1 : n = 1 <;> by_cases h2 : n = 2 <;> simp [threshold, Level.ofInt?, h1, h2]
  | _ => simp [threshold]

/-- Infinity counts as given. -/
theorem orElse_eq_infinite_iff {negative : Bool} :
    v.orElse (.int 0) = .real (.infinite negative) ↔ v = .real (.infinite negative) := by
  unfold Json.orElse
  split_ifs with h
  · rfl
  · refine iff_of_false nofun ?_
    rintro rfl
    exact h rfl

end Values

section Answer

variable {options project : Json.Fields}

theorem build_faultsIn (ho : options.keys.Nodup) (h : ¬ InfiniteDebug options project) :
    FaultsIn IsConfigFault (build options project) := by
  rw [build_eq ho]
  refine (threshold_faultsIn _).bind fun l hl => ?_
  -- The debug level is looked at only once there is a threshold.
  refine (wholeNumber_faultsIn fun negative hdebug => h ?_).bind fun n _ => ?_
  · exact ⟨⟨negative, orElse_eq_infinite_iff.mp hdebug⟩, exists_threshold_iff.mp ⟨l, hl⟩⟩
  · exact (styleName_faultsIn _).bind fun s _ => FaultsIn.ok _

theorem InfiniteDebug.build_eq (ho : options.keys.Nodup) (h : InfiniteDebug options project) :
    build options project = .error (.defect .infiniteInteger) := by
  obtain ⟨negative, hdebug⟩ := h.infinite
  obtain ⟨l, hl⟩ := exists_threshold_iff.mpr h.reached
  rw [ReportConfig.build_eq ho, ofValues, hl, orElse_eq_infinite_iff.mpr hdebug]
  rfl

theorem exists_level_of_build {c : ReportConfig} (ho : options.keys.Nodup)
    (h : build options project = .ok c) : ∃ l, c.filter.threshold = some l := by
  simp only [build_eq ho, ofValues, Noted.bind_eq_ok_iff] at h
  obtain ⟨l, _, n, _, s, _, hc⟩ := h
  cases hc
  exact ⟨l, rfl⟩

def givenOptions : Json.Fields :=
  [("debug", .str "1"), ("style", .null)]

def projectOptions : Json.Fields :=
  [("style", .str "json"), ("min-severity", .int 2), ("debug", .real (.infinite false))]

end Answer

end ReportConfig
end AuditReport
