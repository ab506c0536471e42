import AuditReport.Proofs.SourceMap.Fields
import AuditReport.Proofs.Text.Pieces
import AuditReport.SourceMap.Compressed

/-!
# Decompression in closed form

A map that can be read has one entry for each segment. Each value of an entry is the one that is written
last in its column of fields, at or before the segment of the entry; so no segment has a part in the
entries before it. A map that cannot be read fails at its first segment with a field that cannot.
-/
namespace AuditReport.SourceMap

def segments (compressed : String) : List (List Char) :=
  Text.pieces ';' compressed.toList

def fieldsOf (segment : List Char) : List (List Char) :=
  Text.pieces ':' (Text.trim segment)

def Legible (segment : List Char) : Prop :=
  NumbersLegible (fieldsOf segment) ∧ JumpLegible (fieldsOf segment)

def column (segments : List (List Char)) (n k : Nat) : Option (List Char) :=
  segments[k]?.bind fun s => field? (fieldsOf s) n

/-- A value is what the last field of a column up to a row writes, or the default if none is written. -/
inductive LastWritten {α : Type} (read : List Char → Option α) (default : α)
    (column : Nat → Option (List Char)) (k : Nat) : α → Prop where
  | written {j : Nat} {f : List Char} {v : α} (hj : j ≤ k) (hf : column j = some f)
      (hv : read f = some v) (hafter : ∀ i, j < i → i ≤ k → column i = none) :
      LastWritten read default column k v
  | never (h : ∀ i ≤ k, column i = none) : LastWritten read default column k default

structure Entry.IsLastWritten (e default : Entry) (segments : List (List Char)) (k : Nat) :
    Prop where
  start : LastWritten Text.Numeral.read? default.start (column segments 0) k e.start
  length : LastWritten Text.Numeral.read? default.length (column segments 1) k e.length
  fileIndex : LastWritten Text.Numeral.read? default.fileIndex (column segments 2) k e.fileIndex
  jump : LastWritten Jump.ofText? default.jump (column segments 3) k e.jump

namespace LastWritten

variable {α : Type} {read : List Char → Option α} {column : Nat → Option (List Char)}
  {default value v : α} {k : Nat}

theorem zero (h : Takes read (column 0) default v) : LastWritten read default column 0 v := by
  cases hf : column 0 with
  | none =>
    rw [hf] at h
    cases h
    refine .never fun i hi => ?_
    rw [Nat.le_zero.mp hi, hf]
  | some f =>
    rw [hf] at h
    exact .written (Nat.le_refl 0) hf h fun i hi hi' => absurd hi (by omega)

/-- What the first row writes is the default for the rows after it. -/
theorem succ (hfirst : Takes read (column 0) default value)
    (h : LastWritten read value (fun i => column (i + 1)) k v) :
    LastWritten read default column (k + 1) v := by
  cases h with
  | written hj hf hv hafter =>
    refine .written (Nat.succ_le_succ hj) hf hv fun i hi hi' => ?_
    obtain ⟨i, rfl⟩ := Nat.exists_eq_add_of_lt (Nat.zero_lt_of_lt hi)
    exact hafter _ (by omega) (by omega)
  | never hnone =>
    have hrest : ∀ i, 0 < i → i ≤ k + 1 → column i = none := by
      intro i hi hi'
      obtain ⟨i, rfl⟩ := Nat.exists_eq_succ_of_ne_zero (Nat.ne_of_gt hi)
      exact hnone i (by omega)
    cases hf : column 0 with
    | none =>
      rw [hf] at hfirst
      cases hfirst
      refine .never fun i hi => ?_
      rcases Nat.eq_zero_or_pos i with rfl | hpos
      · exact hf
      · exact hrest i hpos hi
    | some f =>
      rw [hf] at hfirst
      exact .written (Nat.zero_le _) hf hfirst hrest

end LastWritten

variable {previous : Entry} {ss : List (List Char)} {es : List Entry}

theorem decodeFrom_cons_eq_ok_iff {s : List Char} :
    decodeFrom previous (s :: ss) = .ok es ↔ ∃ e rest,
      inherit (String.ofList (Text.trim s)) (fieldsOf s) previous = .ok e ∧
        decodeFrom e ss = .ok rest ∧ e :: rest = es := by
  rw [decodeFrom]
  simp only [Noted.bind_eq_ok_iff, pure, Except.pure, Except.ok.injEq, exists_and_left]
  rfl

/-- One segment: what it does not write is taken over from the entry before. -/
theorem isLastWritten_succ {s : List Char} {location : String} {e : Entry} {k : Nat} {d : Entry}
    (hfirst : inherit location (fieldsOf s) previous = .ok d) (h : e.IsLastWritten d ss k) :
    e.IsLastWritten previous (s :: ss) (k + 1) := by
  obtain ⟨hstart, hlength, hfile, hjump⟩ := inherit_eq_ok_iff.mp hfirst
  exact ⟨.succ hstart h.start, .succ hlength h.length, .succ hfile h.fileIndex, .succ hjump h.jump⟩

theorem isLastWritten_zero {s : List Char} {location : String} {e : Entry}
    (h : inherit location (fieldsOf s) previous = .ok e) : e.IsLastWritten previous (s :: ss) 0 := by
  obtain ⟨hstart, hlength, hfile, hjump⟩ := inherit_eq_ok_iff.mp h
  exact ⟨.zero hstart, .zero hlength, .zero hfile, .zero hjump⟩

theorem length_of_decodeFrom (h : decodeFrom previous ss = .ok es) : es.length = ss.length := by
  induction ss generalizing previous es with
  | nil =>
    cases h
    rfl
  | cons s ss ih =>
    obtain ⟨e, rest, _, hrest, rfl⟩ := decodeFrom_cons_eq_ok_iff.mp h
    rw [List.length_cons, List.length_cons, ih hrest]

theorem isLastWritten_of_decodeFrom (h : decodeFrom previous ss = .ok es) {k : Nat} {e : Entry}
    (he : es[k]? = some e) : e.IsLastWritten previous ss k := by
  induction ss generalizing previous es k with
  | nil =>
    cases h
    cases he
  | cons s ss ih =>
    obtain ⟨d, rest, hd, hrest, rfl⟩ := decodeFrom_cons_eq_ok_iff.mp h
    cases k with
    | zero =>
      cases he
      exact isLastWritten_zero hd
    | succ k => exact isLastWritten_succ hd (ih hrest he)

/-- The first segments alone decode to the first entries. -/
theorem decodeFrom_take (h : decodeFrom previous ss = .ok es) (k : Nat) :
    decodeFrom previous (ss.take k) = .ok (es.take k) := by
  induction ss generalizing previous es k with
  | nil =>
    cases h
    rw [List.take_nil, List.take_nil]
    rfl
  | cons s ss ih =>
    obtain ⟨e, rest, he, hrest, rfl⟩ := decodeFrom_cons_eq_ok_iff.mp h
    cases k with
    | zero => rfl
    | succ k => exact decodeFrom_cons_eq_ok_iff.mpr ⟨e, rest.take k, he, ih hrest k, rfl⟩

theorem exists_decodeFrom_iff :
    (∃ es, decodeFrom previous ss = .ok es) ↔ ∀ s ∈ ss, Legible s := by
  induction ss generalizing previous with
  | nil => exact ⟨fun _ => List.forall_mem_nil _, fun _ => ⟨[], rfl⟩⟩
  | cons s ss ih =>
    rw [List.forall_mem_cons]
    constructor
    · rintro ⟨es, h⟩
      obtain ⟨e, rest, he, hrest, rfl⟩ := decodeFrom_cons_eq_ok_iff.mp h
      exact ⟨exists_inherit_iff.mp ⟨e, he⟩, ih.mp ⟨rest, hrest⟩⟩
    · rintro ⟨hs, hss⟩
      obtain ⟨e, he⟩ := exists_inherit_iff.mpr hs
      obtain ⟨rest, hrest⟩ := ih.mpr hss
      exact ⟨e :: rest, decodeFrom_cons_eq_ok_iff.mpr ⟨e, rest, he, hrest, rfl⟩⟩

def FirstIllegible (ss : List (List Char)) (s : List Char) : Prop :=
  ∃ before after, ss = before ++ s :: after ∧ (∀ t ∈ before, Legible t) ∧ ¬ Legible s

theorem exists_firstIllegible {fault : Fault} (h : decodeFrom previous ss = .error fault) :
    ∃ s name, FirstIllegible ss s ∧ fault = .location name (String.ofList (Text.trim s)) ∧
      (name = "sourceMap" ∧ ¬ NumbersLegible (fieldsOf s) ∨
        name = "jumpType" ∧ NumbersLegible (fieldsOf s)) := by
  induction ss generalizing previous with
  | nil => cases h
  | cons s ss ih =>
    rw [decodeFrom] at h
    rcases Noted.bind_eq_error_iff.mp h with he | ⟨e, he, h⟩
    · have hs : ¬ Legible s := by
        intro hs
        obtain ⟨e, hok⟩ := exists_inherit_iff.mpr hs
        cases hok.symm.trans he
      have hfirst : FirstIllegible (s :: ss) s := ⟨[], ss, rfl, List.forall_mem_nil _, hs⟩
      rcases inherit_eq_error_iff.mp he with ⟨hnumbers, rfl⟩ | ⟨hnumbers, _, rfl⟩
      · exact ⟨s, _, hfirst, rfl, Or.inl ⟨rfl, hnumbers⟩⟩
      · exact ⟨s, _, hfirst, rfl, Or.inr ⟨rfl, hnumbers⟩⟩
    · rcases Noted.bind_eq_error_iff.mp h with hrest | ⟨_, _, hnone⟩
      · obtain ⟨t, name, ⟨before, after, hsplit, hbefore, ht⟩, hfault⟩ := ih hrest
        have hs : Legible s := exists_inherit_iff.mp ⟨e, he⟩
        refine ⟨t, name, ⟨s :: before, after, ?_, List.forall_mem_cons.mpr ⟨hs, hbefore⟩, ht⟩, hfault⟩
        rw [hsplit, List.cons_append]
      · cases hnone

theorem length_segments (compressed : String) :
    (segments compressed).length = compressed.toList.count ';' + 1 :=
  Text.length_pieces ';' compressed.toList

theorem decode_eq {compressed : String} (h : compressed ≠ "") :
    decode compressed = decodeFrom .initial (segments compressed) := by
  rw [decode, if_neg h, segments]

/-- A map decodes to the closed form of its segments, or fails at the first that cannot be read. -/
theorem decode_closedForm {compressed : String} (h : compressed ≠ "") :
    ((∃ es, decode compressed = .ok es) ↔ ∀ s ∈ segments compressed, Legible s) ∧
    (∀ es, decode compressed = .ok es →
      es.length = compressed.toList.count ';' + 1 ∧
      (∀ (k : Nat) (e : Entry), es[k]? = some e →
        e.IsLastWritten ⟨-1, -1, -1, .regular⟩ (segments compressed) k) ∧
      ∀ other ds, decode other = .ok ds → other ≠ "" → ∀ k,
        (segments other).take k = (segments compressed).take k → ds.take k = es.take k) ∧
    ∀ fault, decode compressed = .error fault →
      ∃ s name, FirstIllegible (segments compressed) s ∧
        fault = .location name (String.ofList (Text.trim s)) ∧
        (name = "sourceMap" ∧ ¬ NumbersLegible (fieldsOf s) ∨
          name = "jumpType" ∧ NumbersLegible (fieldsOf s)) := by
  simp only [decode_eq h]
  refine ⟨exists_decodeFrom_iff, fun es hes => ⟨?_, ?_, ?_⟩, fun fault => exists_firstIllegible⟩
  · rw [length_of_decodeFrom hes, length_segments]
  · exact fun k e => isLastWritten_of_decodeFrom hes
  · intro other ds hds hother k hk
    rw [decode_eq hother] at hds
    have htake := decodeFrom_take hds k
    rw [hk, decodeFrom_take hes k] at htake
    exact (Except.ok.inj htake).symm

/-- The length of the third entry is its own, its start that of the first. -/
theorem fourSegments_closedForm :
    decode "1:2:0:i;;:9;-3::1:o" =
        .ok [⟨1, 2, 0, .into⟩, ⟨1, 2, 0, .into⟩, ⟨1, 9, 0, .into⟩, ⟨-3, 9, 1, .out⟩] ∧
      Entry.IsLastWritten ⟨1, 9, 0, .into⟩ ⟨-1, -1, -1, .regular⟩ (segments "1:2:0:i;;:9;-3::1:o") 2 ∧
      ¬ Legible "1:2:0:x".toList := by
  have hdecode : decode "1:2:0:i;;:9;-3::1:o" =
      .ok [⟨1, 2, 0, .into⟩, ⟨1, 2, 0, .into⟩, ⟨1, 9, 0, .into⟩, ⟨-3, 9, 1, .out⟩] := by rfl
  have hsegment : segments "1:2:0:x" = ["1:2:0:x".toList] := by decide
  refine ⟨hdecode, ?_, ?_⟩
  · exact ((decode_closedForm (by decide)).2.1 _ hdecode).2.1 2 _ rfl
  · intro h
    obtain ⟨es, hes⟩ := (decode_closedForm (by decide)).1.mpr
      (hsegment ▸ List.forall_mem_singleton.mpr h)
    cases hes

end AuditReport.SourceMap
