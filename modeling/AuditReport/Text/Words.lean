import AuditReport.Text.Blank

/-!
# Words

The words of a text are what stands between blanks.
-/
namespace AuditReport.Text

def words (s : List Char) : List (List Char) :=
  let close (word : List Char) (rest : List (List Char)) :=
    if word.isEmpty then rest else word :: rest
  let (word, rest) := s.foldr
    (fun c (word, rest) => if isBlank c then ([], close word rest) else (c :: word, rest)) ([], [])
  close word rest

end AuditReport.Text
