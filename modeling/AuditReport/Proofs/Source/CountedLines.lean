import AuditReport.Source.LineTable
import Mathlib.Data.List.Induction
import Mathlib.Tactic.SplitIfs

/-!
# Positions by counting

The line of an offset is told by the line feeds among the bytes before it, and the column by the
bytes after the last of them. A line table looks up offsets among those of the line feeds, which it
gathers character by character; both ways give the same positions and spans.
-/
namespace AuditReport

def lineFeed : UInt8 := 10

def utf8Bytes (text : String) : List UInt8 :=
  text.toUTF8.data.toList

/-- The position of an offset by counting line feeds among the bytes before it. -/
def countedPosition? (bytes : List UInt8) (offset : Int) : Option LineColumn :=
  if offset < 0 ∨ (bytes.length : Int) < offset then none
  else
    let before := bytes.take offset.toNat
    some ⟨before.count lineFeed + 1, (before.reverse.takeWhile (· ≠ lineFeed)).length⟩

def countedSpan (bytes : List UInt8) (start length : Int) : Span :=
  match countedPosition? bytes start with
  | none => .unresolved
  | some first => ⟨first, if length = 0 then none else countedPosition? bytes (start + length)⟩

def lineFeedsFrom (offset : Nat) : List UInt8 → List Nat
  | [] => []
  | b :: bytes =>
    if b = lineFeed then offset :: lineFeedsFrom (offset + 1) bytes
    else lineFeedsFrom (offset + 1) bytes

theorem lineFeedsFrom_append (offset : Nat) (as bs : List UInt8) :
    lineFeedsFrom offset (as ++ bs) =
      lineFeedsFrom offset as ++ lineFeedsFrom (offset + as.length) bs := by
  induction as generalizing offset with
  | nil => rfl
  | cons a as ih =>
    have hnext : offset + (a :: as).length = offset + 1 + as.length := by
      rw [List.length_cons]
      omega
    rw [List.cons_append, lineFeedsFrom, lineFeedsFrom, ih, hnext]
    by_cases ha : a = lineFeed
    · rw [if_pos ha, if_pos ha, List.cons_append]
    · rw [if_neg ha, if_neg ha]

theorem lineFeedsFrom_of_not_mem {bytes : List UInt8} (h : lineFeed ∉ bytes) (offset : Nat) :
    lineFeedsFrom offset bytes = [] := by
  induction bytes generalizing offset with
  | nil => rfl
  | cons b bytes ih =>
    have hb : b ≠ lineFeed := fun he => h (he ▸ List.mem_cons_self)
    rw [lineFeedsFrom, if_neg hb, ih fun hm => h (List.mem_cons_of_mem _ hm)]

theorem bounds_of_mem_lineFeedsFrom {offset n : Nat} {bytes : List UInt8}
    (h : n ∈ lineFeedsFrom offset bytes) : offset ≤ n ∧ n < offset + bytes.length := by
  induction bytes generalizing offset with
  | nil => cases h
  | cons b bytes ih =>
    have hrest : n ∈ lineFeedsFrom (offset + 1) bytes →
        offset ≤ n ∧ n < offset + (b :: bytes).length := by
      intro hn
      have hbounds := ih hn
      rw [List.length_cons]
      omega
    rw [lineFeedsFrom] at h
    by_cases hb : b = lineFeed
    · rw [if_pos hb] at h
      rcases List.mem_cons.mp h with rfl | h
      · rw [List.length_cons]
        omega
      · exact hrest h
    · rw [if_neg hb] at h
      exact hrest h

theorem length_lineFeedsFrom (offset : Nat) (bytes : List UInt8) :
    (lineFeedsFrom offset bytes).length = bytes.count lineFeed := by
  induction bytes generalizing offset with
  | nil => rfl
  | cons b bytes ih =>
    rw [lineFeedsFrom, List.count_cons]
    by_cases hb : b = lineFeed
    · rw [if_pos hb, List.length_cons, ih, if_pos (beq_iff_eq.mpr hb)]
    · rw [if_neg hb, ih, if_neg (mt beq_iff_eq.mp hb), Nat.add_zero]

/-- The line feeds before an offset are those of the bytes before it. -/
theorem takeWhile_lineFeedsFrom (bytes : List UInt8) (n : Nat) :
    (lineFeedsFrom 0 bytes).takeWhile (fun b => decide (b < n)) =
      lineFeedsFrom 0 (bytes.take n) := by
  have hbefore : ∀ b ∈ lineFeedsFrom 0 (bytes.take n), decide (b < n) = true := by
    intro b hb
    have hlt := (bounds_of_mem_lineFeedsFrom hb).2
    have hle := List.length_take_le n bytes
    exact decide_eq_true (by omega)
  have hafter : (lineFeedsFrom (bytes.take n).length (bytes.drop n)).takeWhile
      (fun b => decide (b < n)) = [] := by
    cases hfeeds : lineFeedsFrom (bytes.take n).length (bytes.drop n) with
    | nil => rfl
    | cons b bs =>
      have hb : b ∈ lineFeedsFrom (bytes.take n).length (bytes.drop n) := by
        rw [hfeeds]
        exact List.mem_cons_self
      have hbounds := bounds_of_mem_lineFeedsFrom hb
      rw [List.length_take, List.length_drop] at hbounds
      exact List.takeWhile_cons_of_neg (by simp; omega)
  have hsplit := lineFeedsFrom_append 0 (bytes.take n) (bytes.drop n)
  rw [List.take_append_drop, Nat.zero_add] at hsplit
  rw [hsplit, List.takeWhile_append_of_pos hbefore, hafter, List.append_nil]

/-- The last line feed, if there is one, and the bytes after it are all bytes in length. -/
theorem getLast?_lineFeedsFrom (bytes : List UInt8) :
    (lineFeedsFrom 0 bytes).getLast?.elim 0 (· + 1) +
      (bytes.reverse.takeWhile (· ≠ lineFeed)).length = bytes.length := by
  induction bytes using List.reverseRecOn with
  | nil => rfl
  | append_singleton bytes b ih =>
    rw [lineFeedsFrom_append, Nat.zero_add, lineFeedsFrom, lineFeedsFrom, List.reverse_append,
      List.reverse_singleton, List.singleton_append, List.length_append, List.length_singleton]
    by_cases hb : b = lineFeed
    · rw [if_pos hb, List.getLast?_concat, List.takeWhile_cons_of_neg (by simp [hb])]
      rfl
    · rw [if_neg hb, List.append_nil, List.takeWhile_cons_of_pos (by simp [hb]), List.length_cons,
        ← Nat.add_assoc, ih]

theorem utf8Bytes_eq (text : String) : utf8Bytes text = text.toList.flatMap String.utf8EncodeChar := by
  rw [utf8Bytes, String.toUTF8_eq_toByteArray, ← String.utf8Encode_toList, List.utf8Encode,
    List.toList_data_toByteArray]

theorem utf8EncodeChar_lineFeed : String.utf8EncodeChar '\n' = [lineFeed] := by
  decide

/-- No other character has the byte of the line feed in it. -/
theorem lineFeed_not_mem_utf8EncodeChar {c : Char} (hc : c ≠ '\n') :
    lineFeed ∉ String.utf8EncodeChar c := by
  have hne : ∀ n : Nat, n % 256 ≠ 10 → lineFeed ≠ UInt8.ofNat n := by
    intro n hn he
    have hnat := congrArg UInt8.toNat he
    rw [UInt8.toNat_ofNat'] at hnat
    exact hn hnat.symm
  have hval : c.val.toNat ≠ 10 := fun hn => hc (Char.ext (UInt32.toNat_inj.mp hn))
  -- Only the first form, for characters below 128, has a byte below 128.
  simp only [String.utf8EncodeChar]
  split_ifs <;> simp only [List.mem_cons, List.not_mem_nil, or_false, not_or]
  · exact hne _ (by omega)
  · exact ⟨hne _ (by omega), hne _ (by omega)⟩
  · exact ⟨hne _ (by omega), hne _ (by omega), hne _ (by omega)⟩
  · exact ⟨hne _ (by omega), hne _ (by omega), hne _ (by omega), hne _ (by omega)⟩

theorem breaksFrom_eq (offset : Nat) (s : List Char) :
    breaksFrom offset s = lineFeedsFrom offset (s.flatMap String.utf8EncodeChar) := by
  induction s generalizing offset with
  | nil => rfl
  | cons c s ih =>
    rw [breaksFrom, List.flatMap_cons, lineFeedsFrom_append, String.length_utf8EncodeChar, ih]
    by_cases hc : c = '\n'
    · subst hc
      rw [if_pos rfl, utf8EncodeChar_lineFeed]
      rfl
    · rw [if_neg hc, lineFeedsFrom_of_not_mem (lineFeed_not_mem_utf8EncodeChar hc), List.nil_append]

theorem byteLength_eq (s : List Char) : byteLength s = (s.flatMap String.utf8EncodeChar).length := by
  induction s with
  | nil => rfl
  | cons c s ih =>
    rw [byteLength, List.flatMap_cons, List.length_append, String.length_utf8EncodeChar, ih]

namespace LineTable

theorem breaks_ofText (text : String) : (ofText text).breaks = lineFeedsFrom 0 (utf8Bytes text) := by
  rw [ofText, breaksFrom_eq, utf8Bytes_eq]

theorem size_ofText (text : String) : (ofText text).size = (utf8Bytes text).length := by
  rw [ofText, byteLength_eq, utf8Bytes_eq]

theorem breaksBefore_ofText (text : String) {offset : Int} (h : 0 ≤ offset) :
    (ofText text).breaksBefore offset =
      lineFeedsFrom 0 ((utf8Bytes text).take offset.toNat) := by
  rw [← takeWhile_lineFeedsFrom, breaksBefore, breaks_ofText]
  congr 1
  funext b
  rw [decide_eq_decide]
  omega

theorem position?_ofText (text : String) (offset : Int) :
    (ofText text).position? offset = countedPosition? (utf8Bytes text) offset := by
  unfold position? countedPosition?
  rw [size_ofText]
  by_cases hout : offset < 0 ∨ ((utf8Bytes text).length : Int) < offset
  · rw [if_pos hout, if_pos hout]
  · rw [if_neg hout, if_neg hout, lineStart, breaksBefore_ofText text (by omega),
      length_lineFeedsFrom]
    have hcolumn := getLast?_lineFeedsFrom ((utf8Bytes text).take offset.toNat)
    rw [List.length_take] at hcolumn
    congr 2
    cases hlast : (lineFeedsFrom 0 ((utf8Bytes text).take offset.toNat)).getLast? with
    | none =>
      rw [hlast, Option.elim_none] at hcolumn
      simp only
      omega
    | some b =>
      rw [hlast, Option.elim_some] at hcolumn
      simp only
      omega

theorem span_ofText (text : String) (start : Int) {length : Int} (h : 0 ≤ length) :
    (ofText text).span start length = countedSpan (utf8Bytes text) start length := by
  unfold span countedSpan
  have hlength : ¬ length < 0 := by omega
  rw [position?_ofText, position?_ofText]
  cases countedPosition? (utf8Bytes text) start with
  | none => rfl
  | some first => exact if_neg hlength

end LineTable
end AuditReport
