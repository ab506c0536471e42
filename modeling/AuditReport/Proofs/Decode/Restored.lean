import AuditReport.Finding.Model
import AuditReport.Proofs.Config.IdLists
import AuditReport.Proofs.Decode.Checked

/-!
# Records that are dumped and decoded again

A record is dumped with all of its fields, each under the name that is written. So no default and no other
name counts when the dump is decoded, and what was null, one value for a list, or a text for an object is in
the dump as what it was taken for. Every record is decoded from its dump; a filter is if its ids are
canonical, which those of a decoded filter are.
-/
namespace AuditReport

namespace Decode

variable {α β : Type}

def Restores (d : Json → Checked α) (dump : α → Json) : Prop :=
  ∀ a, d (dump a) = .ok a

/-- What is decoded from any document is decoded again from its dump. -/
def Survives (d : Json → Checked α) (dump : α → Json) : Prop :=
  ∀ v a, d v = .ok a → d (dump a) = .ok a

theorem restores_text : Restores text .str :=
  fun _ => rfl

theorem restores_integer : Restores integer .int :=
  fun _ => rfl

theorem restores_truth : Restores truth .bool :=
  fun _ => rfl

theorem restores_optional_text : Restores (optional text) .ofText? :=
  fun _ => optional_text_eq_ok_iff.mpr rfl

theorem restores_optional_integer : Restores (optional integer) .ofInt? := by
  rintro (_ | n) <;> rfl

section

variable {d : Json → Checked α} {dump : α → Json} (h : Restores d dump)
include h

theorem Restores.survives : Survives d dump :=
  fun _ a _ => h a

theorem Restores.items (as : List α) (n : Nat) : Checked.items d n (as.map dump) = .ok as := by
  induction as generalizing n with
  | nil => rfl
  | cons a as ih =>
    rw [List.map_cons, Checked.items, h a, ih (n + 1)]
    rfl

theorem Restores.listOf : Restores (listOf d) fun as => .arr (as.map dump) :=
  fun as => h.items as 0

theorem Restores.tupleOf : Restores (tupleOf d) fun as => .arr (as.map dump) :=
  fun as => h.items as 0

variable {fs : Json.Fields} {f : FieldName} {a : α}

theorem Restores.withDefault (hf : Table.get? fs f.written = some (dump a)) {default : α} :
    withDefault fs f default d = .ok a :=
  (withDefault_eq_ok_iff hf).mpr (h a)

theorem Restores.required (hf : Table.get? fs f.written = some (dump a)) : required fs f d = .ok a :=
  (required_eq_ok_iff hf).mpr (h a)

end

end Decode

open Decode Decode.Checked

theorem Location.restores : Restores Location.decode Location.toJson := by
  have hsources : Restores (fun v => Decode.tupleOf Decode.text (nullAsEmpty v)) .ofTexts :=
    restores_text.tupleOf
  intro l
  refine ap_ok (ap_ok (ap_ok (map_ok ?_) ?_) ?_) ?_
  · exact restores_text.withDefault rfl
  · exact restores_optional_text.withDefault rfl
  · exact restores_optional_text.withDefault rfl
  · exact hsources.withDefault rfl

theorem Description.restores : Restores Description.decode Description.toJson := by
  intro d
  refine ap_ok (map_ok ?_) ?_
  · exact restores_text.withDefault rfl
  · exact restores_text.withDefault rfl

theorem Finding.restores : Restores Finding.decode Finding.toJson := by
  have hlocations : Restores (fun v => Decode.listOf Location.decode (nullAsEmpty v)) fun ls =>
      .arr (ls.map Location.toJson) := Location.restores.listOf
  have hextra : Restores (fun v => Decode.object (nullAsObject v)) .obj := fun _ => rfl
  intro f
  refine ap_ok (ap_ok (ap_ok (ap_ok (ap_ok (map_ok ?_) ?_) ?_) ?_) ?_) ?_
  · exact restores_optional_text.withDefault rfl
  · exact restores_optional_text.withDefault rfl
  · exact Description.restores.withDefault rfl
  · exact restores_optional_text.withDefault rfl
  · exact hlocations.withDefault rfl
  · exact hextra.withDefault rfl

theorem LogLine.restores : Restores LogLine.decode LogLine.toJson := by
  intro l
  refine ap_ok (map_ok ?_) ?_
  · exact restores_text.withDefault rfl
  · exact restores_text.withDefault rfl

theorem RunInfo.restores : Restores RunInfo.decode RunInfo.toJson := by
  have hlogs : Restores (fun v => Decode.listOf LogLine.decode (asItems v)) fun ls =>
      .arr (ls.map LogLine.toJson) := LogLine.restores.listOf
  have hvalues : Restores (fun v => Decode.listOf Decode.anything (asItems v)) .arr := by
    have hany : Restores Decode.anything id := fun _ => rfl
    intro vs
    have h := hany.items vs 0
    rwa [List.map_id] at h
  intro m
  refine ap_ok (ap_ok (map_ok ?_) ?_) ?_
  · exact hlogs.withDefault rfl
  · exact hvalues.withDefault rfl
  · exact hvalues.withDefault rfl

theorem AnalysisResult.restores : Restores AnalysisResult.decode AnalysisResult.toJson := by
  have hsources : Restores (fun v => Decode.listOf Decode.text (nullAsEmpty v)) .ofTexts :=
    restores_text.listOf
  have hfindings : Restores (fun v => Decode.listOf Finding.decode (nullAsEmpty v)) fun fs =>
      .arr (fs.map Finding.toJson) := Finding.restores.listOf
  have hinfo : Restores (fun v => RunInfo.decode (nullAsObject v)) RunInfo.toJson := RunInfo.restores
  intro r
  refine ap_ok (ap_ok (ap_ok (ap_ok (ap_ok (map_ok ?_) ?_) ?_) ?_) ?_) ?_
  · exact restores_optional_text.withDefault rfl
  · exact restores_optional_text.withDefault rfl
  · exact hsources.withDefault rfl
  · exact hfindings.withDefault rfl
  · exact hinfo.withDefault rfl
  · exact restores_optional_text.withDefault rfl

theorem FindingGroup.restores : Restores FindingGroup.decode FindingGroup.toJson := by
  intro g
  refine ap_ok (ap_ok (ap_ok (ap_ok (map_ok ?_) ?_) ?_) ?_) ?_
  · exact restores_integer.required rfl
  · exact restores_text.required rfl
  · exact restores_optional_text.withDefault rfl
  · exact restores_optional_text.withDefault rfl
  · exact Finding.restores.listOf.withDefault rfl

theorem Record.restores : Restores Record.decode Record.toJson := by
  intro r
  refine ap_ok (ap_ok (ap_ok (ap_ok (ap_ok (ap_ok (ap_ok (ap_ok (map_ok ?_) ?_) ?_) ?_) ?_) ?_) ?_) ?_) ?_
  · exact restores_text.required rfl
  · exact restores_text.required rfl
  · exact restores_integer.required rfl
  · exact restores_optional_text.withDefault rfl
  · exact restores_integer.withDefault rfl
  · exact restores_integer.withDefault rfl
  · exact restores_optional_integer.withDefault rfl
  · exact restores_optional_integer.withDefault rfl
  · exact restores_truth.withDefault rfl

theorem FileReport.restores : Restores FileReport.decode FileReport.toJson := by
  intro r
  refine ap_ok (ap_ok (ap_ok (ap_ok (ap_ok (map_ok ?_) ?_) ?_) ?_) ?_) ?_
  · exact restores_text.required rfl
  · exact restores_integer.withDefault rfl
  · exact restores_integer.withDefault rfl
  · exact restores_integer.withDefault rfl
  · exact restores_integer.withDefault rfl
  · exact Record.restores.tupleOf.withDefault rfl

namespace Filter

variable {f : Filter}

theorem isCanonical_of_decode {v : Json} (h : decode v = .ok f) :
    ∀ id ∈ f.blacklist, RuleId.IsCanonical id.toList := by
  cases v with
  | obj fs =>
    obtain ⟨_, hmk, ids, hids, rfl⟩ := ap_eq_ok_iff.mp h
    obtain ⟨_, _, rfl⟩ := map_eq_ok_iff.mp hmk
    rcases of_withDefault_eq_ok hids with rfl | ⟨w, hw⟩
    · exact List.forall_mem_nil _
    · cases hw
      exact fun _ hid => RuleId.isCanonical_of_mem_listOfJson hid
  | _ => cases h

theorem decode_toJson (h : ∀ id ∈ f.blacklist, RuleId.IsCanonical id.toList) :
    decode f.toJson = .ok f := by
  have hlevel : Restores (Decode.optional level) fun t => .ofInt? (t.map Level.toInt) := by
    rintro (_ | _ | _) <;> rfl
  refine ap_ok (map_ok ?_) ?_
  · exact hlevel.withDefault rfl
  · exact (withDefault_eq_ok_iff rfl).mpr (congrArg Checked.ok (RuleId.listOfJson_ofTexts h))

theorem survives : Survives decode toJson :=
  fun _ _ h => decode_toJson (isCanonical_of_decode h)

end Filter

end AuditReport
