import AuditReport.Markup.Emoji
import AuditReport.Markup.Piece
import AuditReport.Markup.Style
import AuditReport.Text.Controls

/-!
# Plain text of marked-up text

Tags leave no trace in the plain text, but a closing tag needs an open one of the same style, or any
open one when it names none. Emoji codes are replaced within each plain piece. What a tag says after an
equal sign is not looked at.
-/
namespace AuditReport.Markup

/-- The text with every backslash left out that stands before an opening bracket. -/
def dropSlashes : List Char → List Char
  | [] => []
  | [c] => [c]
  | c :: d :: s => if c = '\\' && d = '[' then '[' :: dropSlashes s else c :: dropSlashes (d :: s)

def shown (s : List Char) : List Char :=
  Text.dropControls (replaceCodes (dropSlashes s))

/-- The open tags after one of them is closed: the last one, or the last one of a name. -/
def closeTag (name : List Char) (tags : List String) : Except MarkupFlaw (List String) := do
  let found ←
    if (Text.trim name).isEmpty then pure tags.head?
    else do
      let style ← Style.usualText (Text.trim name)
      pure (tags.find? (· == style))
  match found with
  | none => .error .unopened
  | some t => return tags.erase t

/-- The plain text of pieces after some open tags, the last one first. -/
def plainText (tags : List String) : List Piece → Except MarkupFlaw (List Char)
  | [] => .ok []
  | .plain s :: rest => do return shown s ++ (← plainText tags rest)
  | .tag body :: rest => do
    match Text.firstPiece '=' body with
    | '/' :: name => plainText (← closeTag name tags) rest
    | name => plainText ((← Style.usualText name) :: tags) rest

def render (s : List Char) : Except MarkupFlaw (List Char) :=
  plainText [] (pieces s)

end AuditReport.Markup
