/-!
# Splitting at a separator

A text with `n` separators has `n + 1` pieces, and joining them gives the text back.
-/
namespace AuditReport.Text

/-- The pieces between the separators, never none. -/
def pieces (sep : Char) : List Char → List (List Char)
  | [] => [[]]
  | c :: r => if c = sep then [] :: pieces sep r else (pieces sep r).modifyHead (c :: ·)

def firstPiece (sep : Char) (s : List Char) : List Char :=
  s.takeWhile (· != sep)

def joinWith (sep : Char) : List (List Char) → List Char
  | [] => []
  | [p] => p
  | p :: q :: ps => p ++ sep :: joinWith sep (q :: ps)

theorem pieces_ne_nil (sep : Char) (s : List Char) : pieces sep s ≠ [] := by
  cases s with
  | nil => simp [pieces]
  | cons c r =>
    by_cases h : c = sep
    · simp [pieces, h]
    · have := pieces_ne_nil sep r
      cases hp : pieces sep r with
      | nil => contradiction
      | cons p ps => simp [pieces, h, hp]

theorem joinWith_pieces (sep : Char) (s : List Char) : joinWith sep (pieces sep s) = s := by
  induction s with
  | nil => rfl
  | cons c r ih =>
    cases hp : pieces sep r with
    | nil => exact absurd hp (pieces_ne_nil sep r)
    | cons p ps =>
      rw [hp] at ih
      by_cases h : c = sep
      · simp [pieces, h, hp, joinWith, ih]
      · cases ps with
        | nil => simpa [pieces, h, hp, joinWith] using ih
        | cons q qs => simpa [pieces, h, hp, joinWith] using ih

theorem head?_pieces (sep : Char) (s : List Char) :
    (pieces sep s).head? = some (firstPiece sep s) := by
  induction s with
  | nil => rfl
  | cons c r ih =>
    cases hp : pieces sep r with
    | nil => exact absurd hp (pieces_ne_nil sep r)
    | cons p ps =>
      rw [hp] at ih
      by_cases h : c = sep
      · simp [pieces, firstPiece, h]
      · simpa [pieces, firstPiece, h, hp] using ih

end AuditReport.Text
