import AuditReport.Command.Console
import AuditReport.Markup.Rendering

/-!
# A screen for markup

Texts come out without their tags, each on a line, and rules are 80 columns wide.
-/
namespace AuditReport.Markup

def ruleWidth : Nat := 80

def ruleChar : Char := Char.ofNat 0x2500

/-- A title that is too wide for the rule ends in an ellipsis. -/
def fitTitle (title : List Char) : List Char :=
  let room := ruleWidth - 4
  if room < Text.width title then Text.fit (room - 1) title ++ [Char.ofNat 0x2026] else title

def ruleAround (title : List Char) : List Char :=
  let side := (ruleWidth - Text.width title) / 2
  Text.fit ruleWidth (List.replicate (side - 1) ruleChar ++ ' ' :: title ++
    ' ' :: List.replicate (side + 1) ruleChar)

def rule (title : String) : Except MarkupFlaw (List Char) := do
  if title.isEmpty then return List.replicate ruleWidth ruleChar
  let shown ← render title.toList
  return ruleAround (fitTitle (Console.visible (shown.map fun c => if c = '\n' then ' ' else c)))

def onLine (s : List Char) : String :=
  String.ofList s ++ "\n"

def screen : Console.Screen where
  marked text := (onLine ∘ Console.visible) <$> render text.toList
  rule title := onLine <$> rule title

end AuditReport.Markup
