import AuditReport.Text.Columns
import AuditReport.Text.Split

/-!
# Widths of text

The width of a text is the number of columns that it takes. A joiner takes no column, and neither
does the character after it, which is drawn into the one before. A picture selector widens the last
character that took a column if that has a picture. Characters that are set together form a cluster,
which a cut never divides.
-/
namespace AuditReport.Text

def joiner : Char := Char.ofNat 0x200d

def pictureSelector : Char := Char.ofNat 0xfe0f

/-- What is known of a text up to some character. -/
structure Pen where
  /-- Whether the next character is joined to the one before. -/
  joins : Bool
  /-- The last character that took a column, unless a selector came after it. -/
  last : Option Char
  deriving DecidableEq, Repr, Inhabited

namespace Pen

def start : Pen := ⟨false, none⟩

def isBase (p : Pen) (c : Char) : Bool :=
  !p.joins && c != joiner && c != pictureSelector && columns c != 0

/-- The columns that a character adds to the text before it. -/
def added (p : Pen) (c : Char) : Nat :=
  if p.isBase c then columns c
  else if !p.joins && c == pictureSelector && p.last.any hasPicture then 1
  else 0

/-- The state after one more character. -/
def next (p : Pen) (c : Char) : Pen :=
  if p.joins then { p with joins := false }
  else if c = joiner then { p with joins := true }
  else if c = pictureSelector then start
  else if p.isBase c then ⟨false, some c⟩
  else p

/-- The columns that the rest of a text takes. -/
def width (p : Pen) : List Char → Nat
  | [] => 0
  | c :: s => p.added c + (p.next c).width s

end Pen

def width (s : List Char) : Nat :=
  Pen.start.width s

/-- Characters that are set together, and the columns they take. -/
structure Cluster where
  chars : List Char
  width : Nat
  deriving DecidableEq, Repr, Inhabited

/-- The clusters of the rest of a text: what still belongs to the current one, and those after it. -/
def Pen.clusters (p : Pen) : List Char → Cluster × List Cluster
  | [] => (⟨[], 0⟩, [])
  | c :: s =>
    let (k, ks) := (p.next c).clusters s
    if p.isBase c then (⟨[], 0⟩, ⟨c :: k.chars, p.added c + k.width⟩ :: ks)
    else (⟨c :: k.chars, p.added c + k.width⟩, ks)

/-- The clusters of a text. Marks that nothing comes before form one of their own, in which a joiner at
the front joins nothing. -/
def clusters (s : List Char) : List Cluster :=
  let front := if s.head? = some joiner then [joiner] else []
  let (k, ks) := Pen.start.clusters (s.drop front.length)
  if (front ++ k.chars).isEmpty then ks else ⟨front ++ k.chars, k.width⟩ :: ks

/-- The clusters that fit into `n` columns. A blank stands for a wide one that would be cut in
half. -/
def cutClusters : (n : Nat) → List Cluster → List Char
  | _, [] => []
  | n, k :: ks =>
    if k.width ≤ n then k.chars ++ cutClusters (n - k.width) ks else List.replicate n ' '

/-- The text in `n` columns: cut, or filled up with blanks. -/
def fit (n : Nat) (s : List Char) : List Char :=
  if width s ≤ n then s ++ List.replicate (n - width s) ' ' else cutClusters n (clusters s)

def tabStop : Nat := 8

/-- The pieces of a line that begin after `column` columns. A blank and what is missing to the next
tab stop come after every piece but the last. -/
def fillStops (column : Nat) : List (List Char) → List Char
  | [] => []
  | [p] => p
  | p :: q :: ps =>
    let reached := column + width (p ++ [' '])
    let gap := (tabStop - reached % tabStop) % tabStop
    p ++ List.replicate (gap + 1) ' ' ++ fillStops (reached + gap) (q :: ps)

/-- The text with every tab filled up to the next tab stop of its line. -/
def expandTabs (s : List Char) : List Char :=
  joinWith '\n' ((pieces '\n' s).map fun l => fillStops 0 (pieces '\t' l))

end AuditReport.Text
