/-!
# Controls

Some control characters would move the cursor or ring the bell, and are left out of messages.
-/
namespace AuditReport.Text

/-- Whether a character is a bell, a backspace, a vertical tab, a form feed or a carriage return. -/
def movesCursor (c : Char) : Bool :=
  [7, 8, 11, 12, 13].contains c.toNat

/-- The text without the controls that would move the cursor. -/
def dropControls (s : List Char) : List Char :=
  s.filter fun c => !movesCursor c

end AuditReport.Text
