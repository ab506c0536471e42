import AuditReport.Proofs.Source.CountedLines
import AuditReport.Proofs.Text.Pieces
import Mathlib.Order.Monotone.Basic

/-!
# Places in a text

The lines of a text stand between its line feeds. A place is a line and a column in it; the column behind
the last byte of a line is that of the line feed which ends it, or that of the end of the text. The offsets
from zero up to the size of a text and its places correspond one to one and in order, and the table of the
text tells the place of every offset.
-/
namespace AuditReport

def linesOf (text : String) : List (List Char) :=
  Text.pieces '\n' text.toList

/-- The offset of a line: the lines before it in full, each with its line feed. -/
def startOfLine (lines : List (List Char)) (i : Nat) : Nat :=
  byteLength ((lines.take i).flatMap fun line => line ++ ['\n'])

def HasPlace (text : String) (offset : Int) (p : LineColumn) : Prop :=
  ∃ (i : Nat) (line : List Char), (linesOf text)[i]? = some line ∧ p.line = i + 1 ∧
    0 ≤ p.column ∧ p.column ≤ byteLength line ∧ offset = startOfLine (linesOf text) i + p.column

structure LineTable.Locates (t : LineTable) (text : String) : Prop where
  position?_split : ∀ a b : String, text = a ++ b → t.position? a.utf8ByteSize =
    some ⟨1 + a.toList.count '\n', byteLength (a.toList.rtakeWhile (· ≠ '\n'))⟩
  position?_eq_none_iff : ∀ o : Int, t.position? o = none ↔ o < 0 ∨ text.utf8ByteSize < o
  position?_eq_some_iff : ∀ (o : Int) p, t.position? o = some p ↔ HasPlace text o p
  position?_inj : ∀ (o o' : Int) p, t.position? o = some p → t.position? o' = some p → o = o'
  before_iff_lt : ∀ (o o' : Int) p p', t.position? o = some p → t.position? o' = some p' →
    (p.before p' ↔ o < o')
  span_eq_unresolved_iff : ∀ start length : Int,
    t.span start length = .unresolved ↔ t.position? start = none ∨ length < 0
  span_start : ∀ (start length : Int) p, t.position? start = some p → 0 ≤ length →
    (t.span start length).start = p
  span_stop_eq_none_iff : ∀ (start length : Int) p, t.position? start = some p → 0 ≤ length →
    ((t.span start length).stop = none ↔ length = 0 ∨ text.utf8ByteSize < start + length)
  span_stop : ∀ (start length : Int) q, (t.span start length).stop = some q →
    t.position? (start + length) = some q ∧ (t.span start length).start.before q

theorem breaksFrom_append (offset : Nat) (s r : List Char) :
    breaksFrom offset (s ++ r) = breaksFrom offset s ++ breaksFrom (offset + byteLength s) r := by
  rw [breaksFrom_eq, List.flatMap_append, lineFeedsFrom_append, ← breaksFrom_eq, ← byteLength_eq,
    ← breaksFrom_eq]

theorem breaksFrom_of_not_mem {line : List Char} (h : '\n' ∉ line) (offset : Nat) :
    breaksFrom offset line = [] := by
  induction line generalizing offset with
  | nil => rfl
  | cons c line ih =>
    have hc : c ≠ '\n' := (List.ne_of_not_mem_cons h).symm
    rw [breaksFrom, if_neg hc, ih (List.not_mem_of_not_mem_cons h)]

theorem breaksFrom_line {line : List Char} (h : '\n' ∉ line) (offset : Nat) (rest : List Char) :
    breaksFrom offset (line ++ '\n' :: rest) =
      (offset + byteLength line) :: breaksFrom (offset + byteLength line + 1) rest := by
  rw [breaksFrom_append, breaksFrom_of_not_mem h, List.nil_append, breaksFrom, if_pos rfl]
  rfl

theorem byteLength_append (s r : List Char) : byteLength (s ++ r) = byteLength s + byteLength r := by
  rw [byteLength_eq, List.flatMap_append, List.length_append, ← byteLength_eq, ← byteLength_eq]

theorem byteLength_line (line rest : List Char) :
    byteLength (line ++ '\n' :: rest) = byteLength line + 1 + byteLength rest := by
  have hfeed : byteLength ('\n' :: rest) = 1 + byteLength rest := rfl
  rw [byteLength_append, hfeed, Nat.add_assoc]

theorem byteLength_toList (text : String) : byteLength text.toList = text.utf8ByteSize := by
  rw [byteLength_eq, ← utf8Bytes_eq]
  rfl

section Lines

variable {lines : List (List Char)} {line : List Char} {i j : Nat}

@[simp] theorem startOfLine_zero (lines : List (List Char)) : startOfLine lines 0 = 0 := by
  rw [startOfLine, List.take_zero, List.flatMap_nil, byteLength]

theorem startOfLine_cons (line : List Char) (lines : List (List Char)) (i : Nat) :
    startOfLine (line :: lines) (i + 1) = byteLength line + 1 + startOfLine lines i := by
  rw [startOfLine, List.take_succ_cons, List.flatMap_cons, byteLength_append, byteLength_line,
    ← startOfLine]
  rfl

theorem startOfLine_succ (h : lines[i]? = some line) :
    startOfLine lines (i + 1) = startOfLine lines i + byteLength line + 1 := by
  rw [startOfLine, List.take_add_one, h, List.flatMap_append, byteLength_append, ← startOfLine,
    Option.toList_some, List.flatMap_singleton, byteLength_line, Nat.add_assoc]
  rfl

theorem startOfLine_mono (lines : List (List Char)) : Monotone (startOfLine lines) := by
  apply monotone_nat_of_le_succ
  intro i
  rw [startOfLine, startOfLine, List.take_add_one, List.flatMap_append, byteLength_append]
  exact Nat.le_add_right _ _

/-- Every line before another one takes a line feed at least. -/
theorem le_startOfLine (h : i ≤ lines.length) : i ≤ startOfLine lines i := by
  induction i with
  | zero => exact Nat.zero_le _
  | succ i ih =>
    rw [startOfLine_succ (List.getElem?_eq_getElem h)]
    have hle := ih (Nat.le_of_succ_le h)
    omega

/-- Behind the last line there would be one more line feed. -/
theorem startOfLine_length (h : lines ≠ []) :
    startOfLine lines lines.length = byteLength (Text.joinWith '\n' lines) + 1 := by
  induction lines with
  | nil => contradiction
  | cons line lines ih =>
    rw [List.length_cons, startOfLine_cons]
    cases lines with
    | nil => rfl
    | cons next lines =>
      rw [ih (List.cons_ne_nil next lines), Text.joinWith, byteLength_line]
      omega

theorem startOfLine_add_le (h : lines[i]? = some line) :
    startOfLine lines i + byteLength line ≤ byteLength (Text.joinWith '\n' lines) := by
  obtain ⟨hi, _⟩ := List.getElem?_eq_some_iff.mp h
  have hne : lines ≠ [] := List.ne_nil_of_length_pos (Nat.zero_lt_of_lt hi)
  have hle := startOfLine_mono lines (Nat.succ_le_of_lt hi)
  rw [Nat.succ_eq_add_one, startOfLine_succ h, startOfLine_length hne] at hle
  omega

theorem exists_line (h : lines ≠ []) {offset : Nat}
    (hoffset : offset ≤ byteLength (Text.joinWith '\n' lines)) :
    ∃ i line column, lines[i]? = some line ∧ column ≤ byteLength line ∧
      offset = startOfLine lines i + column := by
  induction lines generalizing offset with
  | nil => contradiction
  | cons line lines ih =>
    by_cases hline : offset ≤ byteLength line
    · exact ⟨0, line, offset, rfl, hline, by rw [startOfLine_zero, Nat.zero_add]⟩
    · cases lines with
      | nil => exact absurd hoffset hline
      | cons next lines =>
        rw [Text.joinWith, byteLength_line] at hoffset
        have hrest : offset - (byteLength line + 1) ≤
            byteLength (Text.joinWith '\n' (next :: lines)) := by omega
        obtain ⟨i, found, column, hi, hcolumn, heq⟩ := ih (List.cons_ne_nil next lines) hrest
        refine ⟨i + 1, found, column, hi, hcolumn, ?_⟩
        rw [startOfLine_cons]
        omega

/-- The line feeds before a column of a line are those of the lines before it, and the last of them
stands right before the line. -/
theorem takeWhile_breaksFrom (hclean : ∀ l ∈ lines, '\n' ∉ l) (hline : lines[i]? = some line)
    {column : Nat} (hcolumn : column ≤ byteLength line) (offset : Nat) :
    ∃ before, (breaksFrom offset (Text.joinWith '\n' lines)).takeWhile
        (fun b => decide (b < offset + startOfLine lines i + column)) = before ∧
      before.length = i ∧ before.getLast?.elim offset (· + 1) = offset + startOfLine lines i := by
  -- The first line feed ends the first line, and the others are those of a text that starts behind it.
  induction lines generalizing i offset with
  | nil => cases hline
  | cons first lines ih =>
    obtain ⟨hfirst, hclean⟩ := List.forall_mem_cons.mp hclean
    cases lines with
    | nil =>
      have hi := (List.getElem?_eq_some_iff.mp hline).1
      have hzero : i = 0 := Nat.lt_one_iff.mp hi
      have hnone : breaksFrom offset (Text.joinWith '\n' [first]) = [] :=
        breaksFrom_of_not_mem hfirst offset
      refine ⟨[], ?_, hzero.symm, ?_⟩
      · rw [hnone, List.takeWhile_nil]
      · rw [hzero, startOfLine_zero]
        rfl
    | cons next lines =>
      rw [Text.joinWith, breaksFrom_line hfirst]
      cases i with
      | zero =>
        have hsame : first = line := Option.some.inj hline
        have hafter : ¬ offset + byteLength first < offset + 0 + column := by
          rw [hsame]
          omega
        refine ⟨[], ?_, rfl, rfl⟩
        rw [startOfLine_zero, List.takeWhile_cons_of_neg (by simpa using hafter)]
      | succ i =>
        obtain ⟨before, htake, hlength, hlast⟩ :=
          ih hclean hline (offset + byteLength first + 1)
        have hstart : offset + startOfLine (first :: next :: lines) (i + 1) =
            offset + byteLength first + 1 + startOfLine (next :: lines) i := by
          rw [startOfLine_cons]
          omega
        have hbefore : offset + byteLength first <
            offset + startOfLine (first :: next :: lines) (i + 1) + column := by omega
        refine ⟨(offset + byteLength first) :: before, ?_, ?_, ?_⟩
        · rw [List.takeWhile_cons_of_pos (by simpa using hbefore), hstart, htake]
        · rw [List.length_cons, hlength]
        · rw [hstart, ← hlast, List.getLast?_cons]
          cases before.getLast? <;> rfl

end Lines

section Places

variable {text : String} {o o' : Int} {p p' : LineColumn}

theorem linesOf_ne_nil (text : String) : linesOf text ≠ [] :=
  Text.pieces_ne_nil '\n' text.toList

theorem joinWith_linesOf (text : String) : Text.joinWith '\n' (linesOf text) = text.toList :=
  Text.joinWith_pieces '\n' text.toList

theorem HasPlace.bounds (h : HasPlace text o p) : 0 ≤ o ∧ o ≤ text.utf8ByteSize := by
  obtain ⟨i, line, hline, _, hcolumn, hle, rfl⟩ := h
  have hsize := startOfLine_add_le hline
  rw [joinWith_linesOf, byteLength_toList] at hsize
  omega

theorem HasPlace.one_le_line (h : HasPlace text o p) : 1 ≤ p.line := by
  obtain ⟨i, _, _, hi, _⟩ := h
  omega

theorem HasPlace.column_nonneg (h : HasPlace text o p) : 0 ≤ p.column := by
  obtain ⟨_, _, _, _, hcolumn, _⟩ := h
  exact hcolumn

theorem HasPlace.line_le (h : HasPlace text o p) : p.line ≤ text.utf8ByteSize + 1 := by
  have hle := h.bounds.2
  obtain ⟨i, _, hline, hi, hcolumn, _, ho⟩ := h
  have hstart := le_startOfLine (Nat.le_of_lt (List.getElem?_eq_some_iff.mp hline).1)
  omega

theorem HasPlace.column_le (h : HasPlace text o p) : p.column ≤ text.utf8ByteSize := by
  have hle := h.bounds.2
  obtain ⟨_, _, _, _, _, _, ho⟩ := h
  omega

theorem exists_hasPlace (h : 0 ≤ o) (hsize : o ≤ text.utf8ByteSize) : ∃ p, HasPlace text o p := by
  have hle : o.toNat ≤ byteLength (Text.joinWith '\n' (linesOf text)) := by
    rw [joinWith_linesOf, byteLength_toList]
    omega
  obtain ⟨i, line, column, hline, hcolumn, ho⟩ := exists_line (linesOf_ne_nil text) hle
  exact ⟨⟨i + 1, column⟩, i, line, hline, rfl, Int.natCast_nonneg column,
    Int.ofNat_le.mpr hcolumn, by dsimp only; omega⟩

theorem HasPlace.before_of_lt (h : HasPlace text o p) (h' : HasPlace text o' p') (hlt : o < o') :
    p.before p' := by
  obtain ⟨i, line, hline, hi, hcolumn, hle, rfl⟩ := h
  obtain ⟨j, line', hline', hj, hcolumn', hle', rfl⟩ := h'
  rcases Nat.lt_trichotomy i j with hij | rfl | hji
  · exact Or.inl (by omega)
  · exact Or.inr ⟨by omega, by omega⟩
  · -- The whole line of the second place, with its line feed, comes before the line of the first.
    have hstart := startOfLine_mono (linesOf text) (Nat.succ_le_of_lt hji)
    rw [Nat.succ_eq_add_one, startOfLine_succ hline'] at hstart
    omega

namespace LineTable

theorem position?_of_hasPlace (h : HasPlace text o p) : (ofText text).position? o = some p := by
  have hbounds := h.bounds
  obtain ⟨i, line, hline, hi, hcolumn, hle, ho⟩ := h
  obtain ⟨column, hc⟩ := Int.eq_ofNat_of_zero_le hcolumn
  rw [hc] at hle ho
  have hclean : ∀ l ∈ linesOf text, '\n' ∉ l := fun _ => Text.not_mem_of_mem_pieces
  obtain ⟨before, htake, hlength, hlast⟩ :=
    takeWhile_breaksFrom hclean hline (Int.ofNat_le.mp hle) 0
  have hbefore : (ofText text).breaksBefore o = before := by
    rw [breaksBefore, ← htake, joinWith_linesOf]
    congr 1
    funext b
    rw [decide_eq_decide]
    omega
  have hstart : (ofText text).lineStart o = startOfLine (linesOf text) i := by
    rw [lineStart, hbefore]
    cases hb : before.getLast? with
    | none =>
      rw [hb, Option.elim_none] at hlast
      dsimp only
      omega
    | some b =>
      rw [hb, Option.elim_some] at hlast
      dsimp only
      omega
  have hsize : (ofText text).size = text.utf8ByteSize := byteLength_toList text
  have hinside : ¬ (o < 0 ∨ ((ofText text).size : Int) < o) := by
    rw [hsize]
    omega
  have hrest : o - startOfLine (linesOf text) i = p.column := by omega
  rw [position?, if_neg hinside, hbefore, hlength, hstart, hrest, ← hi]

theorem position?_eq_none_iff : (ofText text).position? o = none ↔ o < 0 ∨ text.utf8ByteSize < o := by
  have hsize : (ofText text).size = text.utf8ByteSize := byteLength_toList text
  rw [position?, hsize]
  by_cases hout : o < 0 ∨ (text.utf8ByteSize : Int) < o
  · rw [if_pos hout]
    exact iff_of_true rfl hout
  · rw [if_neg hout]
    exact iff_of_false (Option.some_ne_none _) hout

theorem position?_eq_some_iff : (ofText text).position? o = some p ↔ HasPlace text o p := by
  constructor
  · intro h
    have hinside : ¬ (o < 0 ∨ (text.utf8ByteSize : Int) < o) := by
      rw [← position?_eq_none_iff, h]
      exact Option.some_ne_none p
    have hplace : ∃ q, HasPlace text o q := exists_hasPlace (by omega) (by omega)
    obtain ⟨q, hq⟩ := hplace
    rw [position?_of_hasPlace hq] at h
    cases h
    exact hq
  · exact position?_of_hasPlace

theorem before_iff_lt (h : (ofText text).position? o = some p)
    (h' : (ofText text).position? o' = some p') : p.before p' ↔ o < o' := by
  have hplace := position?_eq_some_iff.mp h
  have hplace' := position?_eq_some_iff.mp h'
  refine ⟨?_, hplace.before_of_lt hplace'⟩
  intro hbefore
  rcases Int.lt_trichotomy o o' with hlt | rfl | hgt
  · exact hlt
  · rw [h] at h'
    cases h'
    unfold LineColumn.before at hbefore
    omega
  · have hback := hplace'.before_of_lt hplace hgt
    unfold LineColumn.before at hbefore hback
    omega

/-- What follows an offset makes no difference to its position. -/
theorem position?_append (a b : String) :
    (ofText (a ++ b)).position? a.utf8ByteSize = (ofText a).position? a.utf8ByteSize := by
  have hbytes : utf8Bytes (a ++ b) = utf8Bytes a ++ utf8Bytes b := by
    rw [utf8Bytes_eq, utf8Bytes_eq, utf8Bytes_eq, String.toList_append, List.flatMap_append]
  have hsize : (utf8Bytes a).length = a.utf8ByteSize := rfl
  have hinside : ¬ ((a.utf8ByteSize : Int) < 0 ∨
      ((utf8Bytes a ++ utf8Bytes b).length : Int) < a.utf8ByteSize) := by
    rw [List.length_append]
    omega
  have hend : ¬ ((a.utf8ByteSize : Int) < 0 ∨ ((utf8Bytes a).length : Int) < a.utf8ByteSize) := by
    omega
  rw [position?_ofText, position?_ofText, hbytes, countedPosition?, countedPosition?,
    if_neg hinside, if_neg hend, Int.toNat_natCast, List.take_left' hsize, ← hsize, List.take_length]

/-- A text ends on its last line. -/
theorem hasPlace_end (text : String) : HasPlace text text.utf8ByteSize
    ⟨1 + text.toList.count '\n', byteLength (text.toList.rtakeWhile (· ≠ '\n'))⟩ := by
  have hlength : (linesOf text).length = text.toList.count '\n' + 1 :=
    Text.length_pieces '\n' text.toList
  have hlast : (linesOf text)[text.toList.count '\n']? =
      some (text.toList.rtakeWhile (· ≠ '\n')) := by
    rw [← Text.getLast?_pieces, List.getLast?_eq_getElem?, ← linesOf, hlength, Nat.add_sub_cancel]
  have hend := startOfLine_length (linesOf_ne_nil text)
  rw [hlength, startOfLine_succ hlast, joinWith_linesOf, byteLength_toList] at hend
  refine ⟨_, _, hlast, Int.add_comm _ _, Int.natCast_nonneg _, Int.le_refl _, ?_⟩
  dsimp only
  omega

theorem span_of_position? {start length : Int} (h : (ofText text).position? start = some p)
    (hlength : 0 ≤ length) : (ofText text).span start length =
      ⟨p, if length = 0 then none else (ofText text).position? (start + length)⟩ := by
  have hnot : ¬ length < 0 := by omega
  rw [span, h]
  exact if_neg hnot

theorem span_eq_unresolved_iff {start length : Int} : (ofText text).span start length = .unresolved ↔
    (ofText text).position? start = none ∨ length < 0 := by
  cases h : (ofText text).position? start with
  | none =>
    rw [span, h]
    exact iff_of_true rfl (Or.inl rfl)
  | some p =>
    by_cases hlength : length < 0
    · rw [span, h]
      exact iff_of_true (if_pos hlength) (Or.inr hlength)
    · -- A position has a line from one on, and that of the unresolved span is -1.
      obtain ⟨i, _, _, hi, _⟩ := position?_eq_some_iff.mp h
      rw [span_of_position? h (by omega)]
      apply iff_of_false
      · intro he
        have hline : p.line = -1 := congrArg (fun s : Span => s.start.line) he
        omega
      · rintro (hnone | hneg)
        · cases hnone
        · exact hlength hneg

theorem span_stop_eq_none_iff {start length : Int} (h : (ofText text).position? start = some p)
    (hlength : 0 ≤ length) : ((ofText text).span start length).stop = none ↔
      length = 0 ∨ text.utf8ByteSize < start + length := by
  have hstart := (position?_eq_some_iff.mp h).bounds.1
  rw [span_of_position? h hlength]
  by_cases hzero : length = 0
  · rw [if_pos hzero]
    exact iff_of_true rfl (Or.inl hzero)
  · rw [if_neg hzero, position?_eq_none_iff]
    omega

theorem span_stop {start length : Int} {q : LineColumn}
    (h : ((ofText text).span start length).stop = some q) :
    (ofText text).position? (start + length) = some q ∧
      ((ofText text).span start length).start.before q := by
  have hresolved : (ofText text).span start length ≠ .unresolved := by
    intro he
    rw [he] at h
    cases h
  rw [Ne, span_eq_unresolved_iff, not_or] at hresolved
  obtain ⟨p, hp⟩ := Option.ne_none_iff_exists'.mp hresolved.1
  rw [span_of_position? hp (by omega)] at h ⊢
  by_cases hzero : length = 0
  · rw [if_pos hzero] at h
    cases h
  · rw [if_neg hzero] at h
    exact ⟨h, (before_iff_lt hp h).mpr (by omega)⟩

/-- The table of a text tells the places of its offsets. -/
theorem ofText_locates (text : String) : (ofText text).Locates text where
  position?_split := by
    rintro a b rfl
    rw [position?_append]
    exact position?_of_hasPlace (hasPlace_end a)
  position?_eq_none_iff _ := position?_eq_none_iff
  position?_eq_some_iff _ _ := position?_eq_some_iff
  position?_inj o o' p h h' := by
    have hlt := before_iff_lt h h'
    have hgt := before_iff_lt h' h
    unfold LineColumn.before at hlt hgt
    omega
  before_iff_lt _ _ _ _ := before_iff_lt
  span_eq_unresolved_iff _ _ := span_eq_unresolved_iff
  span_start _ _ _ h hlength := by rw [span_of_position? h hlength]
  span_stop_eq_none_iff _ _ _ := span_stop_eq_none_iff
  span_stop _ _ _ := span_stop

/-- The line feed stands on the line that it ends, behind the two bytes of its letter. -/
example : (ofText "é\nx").position? 2 = some ⟨1, 2⟩ ∧ (ofText "é\nx").position? 3 = some ⟨2, 0⟩ := by
  decide

end LineTable
end Places
end AuditReport
