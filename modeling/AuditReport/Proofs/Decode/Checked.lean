import AuditReport.Decode.Value
import Mathlib.Data.List.Forall2

/-!
# Decoders that succeed

Decoding succeeds exactly if every part of it does, and gives what the parts give.
-/
namespace AuditReport

namespace Decode

open Checked

variable {α β : Type}

namespace Checked

theorem map_eq_ok_iff {f : α → β} {x : Checked α} {b : β} :
    x.map f = .ok b ↔ ∃ a, x = .ok a ∧ f a = b := by
  cases x <;> simp [map]

theorem ap_eq_ok_iff {f : Checked (α → β)} {x : Checked α} {b : β} :
    f.ap x = .ok b ↔ ∃ g, f = .ok g ∧ ∃ a, x = .ok a ∧ g a = b := by
  cases f <;> cases x <;> simp [ap, map]

theorem map_ok {g : α → β} {x : Checked α} {a : α} (h : x = .ok a) : g <$> x = .ok (g a) :=
  congrArg (map g) h

theorem ap_ok {f : Checked (α → β)} {g : α → β} {x : Checked α} {a : α} (hf : f = .ok g)
    (hx : x = .ok a) : f <*> x = .ok (g a) := by
  rw [hf, hx]
  rfl

theorem under_eq_ok_iff {s : Step} {x : Checked α} {a : α} : x.under s = .ok a ↔ x = .ok a := by
  cases x <;> simp [under]

theorem values_eq_ok_iff {d : Json → Checked α} {fs : Json.Fields} {t : Table α} :
    values d fs = .ok t ↔ List.Forall₂ (fun e s => s.1 = e.1 ∧ d e.2 = .ok s.2) fs t := by
  induction fs generalizing t with
  | nil =>
    rw [List.forall₂_nil_left_iff, values, Checked.ok.injEq]
    exact eq_comm
  | cons e fs ih =>
    simp only [values, map_eq, seq_eq, ap_eq_ok_iff, map_eq_ok_iff, under_eq_ok_iff, ih]
    constructor
    · rintro ⟨_, ⟨a, ha, rfl⟩, rest, hrest, rfl⟩
      exact List.Forall₂.cons ⟨rfl, ha⟩ hrest
    · rintro (_ | ⟨⟨hkey, ha⟩, hrest⟩)
      exact ⟨_, ⟨_, ha, rfl⟩, _, hrest, congrArg (· :: _) (Prod.ext hkey.symm rfl)⟩

end Checked

/-- A field that is there has no need of its default. -/
theorem withDefault_eq_ok_iff {fs : Json.Fields} {f : FieldName} {v : Json}
    (h : Table.get? fs f.written = some v) {default a : α} {d : Json → Checked α} :
    withDefault fs f default d = .ok a ↔ d v = .ok a := by
  simp only [withDefault, FieldName.find?, h, under_eq_ok_iff]

theorem required_eq_ok_iff {fs : Json.Fields} {f : FieldName} {v : Json}
    (h : Table.get? fs f.written = some v) {a : α} {d : Json → Checked α} :
    required fs f d = .ok a ↔ d v = .ok a := by
  simp only [required, FieldName.find?, h, under_eq_ok_iff]

/-- A field has its default or is decoded from some value. -/
theorem of_withDefault_eq_ok {fs : Json.Fields} {f : FieldName} {default a : α}
    {d : Json → Checked α} (h : withDefault fs f default d = .ok a) :
    a = default ∨ ∃ v, d v = .ok a := by
  unfold withDefault at h
  split at h
  · exact Or.inr ⟨_, under_eq_ok_iff.mp h⟩
  · exact Or.inl (Checked.ok.inj h).symm

theorem text_eq_ok_iff {v : Json} {s : String} : text v = .ok s ↔ v = .str s := by
  cases v <;> simp [text, Checked.fail]

theorem optional_text_eq_ok_iff {v : Json} {o : Option String} :
    optional text v = .ok o ↔ v = .ofText? o := by
  cases o <;> cases v <;> simp [optional, text, Checked.map, Checked.fail, Json.ofText?]

theorem optional_object_eq_ok_iff {v : Json} {o : Option Json.Fields} :
    optional object v = .ok o ↔ v = .ofFields? o := by
  cases o <;> cases v <;> simp [optional, object, Checked.map, Checked.fail, Json.ofFields?]

end Decode
end AuditReport
