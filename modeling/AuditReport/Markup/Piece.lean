import AuditReport.Text.Split

/-!
# Pieces of marked-up text

A tag stands in square brackets and begins with a small letter, a hash, a slash or an at sign. Of
the backslashes before a tag every two stand for one, and an odd one makes the tag plain text.
-/
namespace AuditReport.Markup

inductive Piece where
  | plain (s : List Char)
  /-- What stands between the brackets of a tag. -/
  | tag (body : List Char)
  deriving DecidableEq, Repr, Inhabited

def beginsTag (c : Char) : Bool :=
  ('a' ≤ c && c ≤ 'z') || c == '#' || c == '/' || c == '@'

def isBracket (c : Char) : Bool :=
  c == '[' || c == ']'

/-- The body of a tag of which the opening bracket has been read, and what follows the tag. -/
def tagBody? (s : List Char) : Option (List Char × List Char) :=
  match s.takeWhile (!isBracket ·), s.dropWhile (!isBracket ·) with
  | c :: body, ']' :: rest => if beginsTag c then some (c :: body, rest) else none
  | _, _ => none

theorem length_lt_of_tagBody? {s body rest : List Char} (h : tagBody? s = some (body, rest)) :
    rest.length < s.length := by
  unfold tagBody? at h
  split at h
  · rename_i c b r hb hr
    split at h
    · cases h
      have := (List.dropWhile_suffix (!isBracket ·) (l := s)).length_le
      rw [hr] at this
      exact this
    · cases h
  · cases h

/-- A plain piece, unless it is empty. -/
def Piece.ofPlain (s : List Char) : List Piece :=
  if s.isEmpty then [] else [plain s]

/-- The pieces of the rest of a text, after plain text, which is held in reverse, and a number of
backslashes. -/
def scan (before : List Char) (slashes : Nat) : List Char → List Piece
  | [] => Piece.ofPlain (List.replicate slashes '\\' ++ before).reverse
  | c :: s =>
    if c = '\\' then scan before (slashes + 1) s
    else if c = '[' then
      match h : tagBody? s with
      | some (body, rest) =>
        have := length_lt_of_tagBody? h
        Piece.ofPlain before.reverse ++ Piece.ofPlain (List.replicate (slashes / 2) '\\') ++
          (if slashes % 2 = 1 then .plain ('[' :: body ++ [']']) else .tag body) :: scan [] 0 rest
      | none => scan ('[' :: List.replicate slashes '\\' ++ before) 0 s
    else scan (c :: List.replicate slashes '\\' ++ before) 0 s
  termination_by s => s.length

def pieces (s : List Char) : List Piece :=
  scan [] 0 s

end AuditReport.Markup
