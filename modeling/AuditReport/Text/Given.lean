/-!
# Texts that count as given

A text that is missing or empty counts as not given.
-/
namespace AuditReport.Text

def orElse (s other : Option String) : Option String :=
  match s with
  | none => other
  | some t => if t = "" then other else some t

theorem orElse_some_of_ne_empty {s : String} (h : s ≠ "") (other : Option String) :
    orElse (some s) other = some s :=
  if_neg h

def orDefault (s : Option String) (default : String) : String :=
  match s with
  | none => default
  | some t => if t = "" then default else t

theorem orDefault_ne_empty (s : Option String) {default : String} (h : default ≠ "") :
    orDefault s default ≠ "" := by
  cases s with
  | none => exact h
  | some t =>
    by_cases ht : t = ""
    · rw [orDefault, if_pos ht]
      exact h
    · rw [orDefault, if_neg ht]
      exact ht

end AuditReport.Text
