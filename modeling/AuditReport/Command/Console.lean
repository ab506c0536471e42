import AuditReport.Fault
import AuditReport.Text.Controls
import AuditReport.Text.Width

/-!
# Messages to the user

Messages have a tone, whose glyph goes in front of the text where glyphs are wanted. Tabs are filled up
with blanks, and the controls that would move the cursor are left out. A section title stands between equal
signs, or in a rule where colour is wanted. Markup counts in it, so the screen may refuse it.
-/
namespace AuditReport.Console

inductive Tone where
  | info
  | warn
  | fail
  deriving DecidableEq, Repr, Inhabited

def Tone.glyph : Tone → String
  | info => "\u2139\ufe0f "
  | warn => "\u26a0\ufe0f "
  | fail => "\u274c "

def Tone.ofName? (name : String) : Option Tone :=
  if name = "info" then some .info
  else if name = "warn" then some .warn
  else if name = "fail" then some .fail
  else none

def symbol (s : String) (wanted : Bool) : String :=
  if wanted then s else ""

/-- The characters of a text as they come out on a screen. -/
def visible (s : List Char) : List Char :=
  Text.expandTabs (Text.dropControls s)

def line (tone : Tone) (text : String) (glyphs : Bool) : String :=
  String.ofList (visible (symbol tone.glyph glyphs ++ text).toList) ++ "\n"

def lineNamed (tone text : String) (glyphs : Bool) : Except Fault String :=
  match Tone.ofName? tone with
  | some t => .ok (line t text glyphs)
  | none => .error (.defect .unknownTone)

/-- A screen on which markup counts: what comes out of a text with markup, and of a rule with a title. -/
structure Screen where
  marked : String → Except MarkupFlaw String
  rule : String → Except MarkupFlaw String

def sectionTitle (screen : Screen) (title : String) (color : Bool) : Except MarkupFlaw String :=
  if color then screen.rule title else screen.marked ("\n== " ++ title ++ " ==")

/-- The state of the log after each of some calls that choose its level: debug messages are shown or
only warnings. There is one handler throughout, and it has the level of the last call. -/
structure LogState where
  level : Int
  handlers : List Int
  deriving DecidableEq, Repr, Inhabited

def LogState.initial : LogState := ⟨0, []⟩

def debugLevel : Int := 10

def warningLevel : Int := 30

/-- Sets the level, with a handler added when there is none. -/
def LogState.configure (s : LogState) (debug : Bool) : LogState :=
  let level := if debug then debugLevel else warningLevel
  let handlers := if s.handlers.isEmpty then [level] else s.handlers
  ⟨level, handlers.map fun _ => level⟩

end AuditReport.Console
