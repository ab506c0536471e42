import AuditReport.Json.Basic
import AuditReport.Number.Shortest
import AuditReport.Text.Quoted

/-!
# Values in messages

Inside a message a value is shown with capitalised `None`, `True` and `False` and with quoted
texts. A text that is shown by itself stands without quotes.
-/
namespace AuditReport.Json

def shownSpelling : Binary64.Spelling := ⟨"inf", "nan"⟩

mutual

/-- The value with its texts quoted. -/
def quoted : Json → String
  | null => "None"
  | bool true => "True"
  | bool false => "False"
  | int n => toString n
  | real x => x.text shownSpelling
  | str s => Text.quote s
  | arr [] => "[]"
  | arr (v :: vs) => "[" ++ quoted v ++ quotedItems vs ++ "]"
  | obj [] => "\x7b\x7d"
  | obj ((k, v) :: fs) =>
    "\x7b" ++ Text.quote k ++ ": " ++ quoted v ++ quotedFields fs ++ "\x7d"

def quotedItems : List Json → String
  | [] => ""
  | v :: vs => ", " ++ quoted v ++ quotedItems vs

def quotedFields : List (String × Json) → String
  | [] => ""
  | (k, v) :: fs => ", " ++ Text.quote k ++ ": " ++ quoted v ++ quotedFields fs

end

/-- The value as a word: a text as it is, anything else as `quoted`. -/
def shown : Json → String
  | str s => s
  | v => quoted v

end AuditReport.Json
