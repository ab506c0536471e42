import AuditReport.Text.Blank

/-!
# Severity levels

Reports know two levels, written 1 and 2. The engine's severity `High` is an error and every other
one a warning; users name a level by a word in any letter case.
-/
namespace AuditReport

inductive Level where
  | warning
  | error
  deriving DecidableEq, Repr, Inhabited

namespace Level

def toInt : Level → Int
  | warning => 1
  | error => 2

def ofInt? (n : Int) : Option Level :=
  if n = 1 then some warning else if n = 2 then some error else none

/-- The level of a severity as the engine writes it. -/
def ofEngine (severity : Option String) : Level :=
  if severity = some "High" then error else warning

def ofName (name : Option String) (default : Level) : Level :=
  match name with
  | none => default
  | some s =>
    let word := (Text.strip s).toLower
    if word = "error" then error else if word = "warning" then warning else default

theorem toInt_eq_one_or_two (l : Level) : l.toInt = 1 ∨ l.toInt = 2 := by
  cases l with
  | warning => exact Or.inl rfl
  | error => exact Or.inr rfl

theorem toInt_ofEngine_eq_two_iff (severity : Option String) :
    (ofEngine severity).toInt = 2 ↔ severity = some "High" := by
  unfold ofEngine
  split
  · rename_i h
    exact iff_of_true rfl h
  · rename_i h
    exact iff_of_false (by decide) h

end Level
end AuditReport
