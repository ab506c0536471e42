import AuditReport.Proofs.SourceMap.Decompression
import AuditReport.Proofs.Text.Decimal

/-!
# Renderings

A list of entries can be compressed in many ways: a field that repeats the entry before may be written or
left empty, and empty fields at the end of a segment may be dropped. Every such text decodes to the list
that it renders.
-/
namespace AuditReport.SourceMap

def decimal (n : Int) : List Char :=
  (toString n).toList

/-- The text of a field: the value, or nothing where it is the one of the entry before. -/
inductive FieldText {α : Type} (write : α → List Char) (previous value : α) : List Char → Prop where
  | written : FieldText write previous value (write value)
  | repeated (h : value = previous) : FieldText write previous value []

inductive Entry.FieldTexts (e previous : Entry) : List (List Char) → Prop where
  | fields {start length file jump : List Char}
      (hstart : FieldText decimal previous.start e.start start)
      (hlength : FieldText decimal previous.length e.length length)
      (hfile : FieldText decimal previous.fileIndex e.fileIndex file)
      (hjump : FieldText (fun j => [Jump.letter j]) previous.jump e.jump jump) :
      e.FieldTexts previous [start, length, file, jump]

/-- A segment that renders an entry after another one: fields at its end may be dropped if they are
empty. -/
def Entry.Renders (e previous : Entry) (s : List Char) : Prop :=
  ∃ fs kept, e.FieldTexts previous fs ∧ (∀ f ∈ fs.drop kept, f = []) ∧
    s = Text.joinWith ':' (fs.take kept)

inductive RendersFrom : Entry → List Entry → List (List Char) → Prop where
  | nil {previous : Entry} : RendersFrom previous [] []
  | cons {previous e : Entry} {es : List Entry} {s : List Char} {ss : List (List Char)}
      (hs : e.Renders previous s) (hss : RendersFrom e es ss) :
      RendersFrom previous (e :: es) (s :: ss)

def Renders (es : List Entry) (compressed : String) : Prop :=
  ∃ ss, RendersFrom .initial es ss ∧ compressed.toList = Text.joinWith ';' ss

def Entry.Bounded (e : Entry) : Prop :=
  ∀ n ∈ [e.start, e.length, e.fileIndex], (Nat.toDigits 10 n.natAbs).length ≤ Text.Numeral.maxDigits

instance (e : Entry) : Decidable e.Bounded :=
  List.decidableBAll _ _

/-- The characters of a field: none is a blank or a separator. -/
def Plain (c : Char) : Prop :=
  Text.isBlank c = false ∧ c ≠ ':' ∧ c ≠ ';'

instance (c : Char) : Decidable (Plain c) :=
  inferInstanceAs (Decidable (_ ∧ _ ∧ _))

theorem plain_of_mem_decimal {n : Int} : ∀ c ∈ decimal n, Plain c :=
  Text.forall_mem_toString (by decide) fun d hd => by interval_cases d <;> decide

theorem plain_letter (j : Jump) : ∀ c ∈ [j.letter], Plain c := by
  rw [List.forall_mem_singleton]
  cases j <;> decide

def nonempty? (f : List Char) : Option (List Char) :=
  if f = [] then none else some f

namespace FieldText

variable {α : Type} {write : α → List Char} {previous value : α} {f : List Char}

theorem plain (h : FieldText write previous value f) (hwrite : ∀ c ∈ write value, Plain c) :
    ∀ c ∈ f, Plain c := by
  cases h with
  | written => exact hwrite
  | repeated => exact List.forall_mem_nil _

theorem takes {read : List Char → Option α} (h : FieldText write previous value f)
    (hne : write value ≠ []) (hread : read (write value) = some value) :
    Takes read (nonempty? f) previous value := by
  cases h with
  | written =>
    rw [nonempty?, if_neg hne]
    exact hread
  | repeated h => exact h

end FieldText

section Fields

variable {fs : List (List Char)}

theorem field?_eq_bind (fs : List (List Char)) (k : Nat) : field? fs k = fs[k]?.bind nonempty? := by
  rw [field?]
  rcases fs[k]? with _ | _ | ⟨c, f⟩ <;> rfl

/-- Empty fields at the end count for nothing. -/
theorem field?_take {n : Nat} (h : ∀ f ∈ fs.drop n, f = []) (k : Nat) :
    field? (fs.take n) k = field? fs k := by
  rw [field?_eq_bind, field?_eq_bind, List.getElem?_take]
  split
  · rfl
  · rename_i hk
    cases hf : fs[k]? with
    | none => rfl
    | some f =>
      have hdrop : (fs.drop n)[k - n]? = some f := by
        rw [List.getElem?_drop, Nat.add_sub_cancel' (Nat.not_lt.mp hk), hf]
      cases h f (List.mem_of_getElem? hdrop)
      rfl

theorem field?_pieces_joinWith (h : ∀ f ∈ fs, ':' ∉ f) (k : Nat) :
    field? (Text.pieces ':' (Text.joinWith ':' fs)) k = field? fs k := by
  cases fs with
  | nil => cases k <;> rfl
  | cons f fs => rw [Text.pieces_joinWith (List.cons_ne_nil f fs) h]

end Fields

variable {e previous : Entry} {s : List Char}

theorem Entry.FieldTexts.plain {fs : List (List Char)} (h : e.FieldTexts previous fs) :
    ∀ f ∈ fs, ∀ c ∈ f, Plain c := by
  obtain ⟨hstart, hlength, hfile, hjump⟩ := h
  simp only [List.forall_mem_cons]
  exact ⟨hstart.plain plain_of_mem_decimal, hlength.plain plain_of_mem_decimal,
    hfile.plain plain_of_mem_decimal, hjump.plain (plain_letter _), List.forall_mem_nil _⟩

theorem decimal_ne_nil (n : Int) : decimal n ≠ [] := by
  rw [decimal, Text.toList_toString]
  exact List.append_ne_nil_of_right_ne_nil _ Nat.toDigits_ne_nil

/-- One segment: what is written and what is left out together give the entry. -/
theorem inherit_of_fieldTexts {fs fields : List (List Char)} (h : e.FieldTexts previous fs)
    (hbounded : e.Bounded) (hfields : ∀ k, field? fields k = field? fs k) (location : String) :
    inherit location fields previous = .ok e := by
  obtain ⟨hstart, hlength, hfile, hjump⟩ := h
  have hnumber : ∀ n ∈ [e.start, e.length, e.fileIndex], Text.Numeral.read? (decimal n) = some n :=
    fun n hn => Text.Numeral.read?_toString (hbounded n hn)
  simp only [List.forall_mem_cons] at hnumber
  obtain ⟨hreadStart, hreadLength, hreadFile, _⟩ := hnumber
  simp only [inherit_eq_ok_iff, hfields, field?_eq_bind]
  exact ⟨hstart.takes (decimal_ne_nil _) hreadStart, hlength.takes (decimal_ne_nil _) hreadLength,
    hfile.takes (decimal_ne_nil _) hreadFile,
    hjump.takes (List.cons_ne_nil _ _) (Jump.ofText?_letter e.jump)⟩

namespace Entry.Renders

theorem plain (h : e.Renders previous s) : ∀ c ∈ s, Text.isBlank c = false ∧ c ≠ ';' := by
  obtain ⟨fs, kept, hfs, _, rfl⟩ := h
  intro c hc
  rcases Text.mem_joinWith hc with rfl | ⟨f, hf, hcf⟩
  · decide
  · have hplain := hfs.plain f (List.mem_of_mem_take hf) c hcf
    exact ⟨hplain.1, hplain.2.2⟩

theorem inherit_fieldsOf (h : e.Renders previous s) (hbounded : e.Bounded) (location : String) :
    inherit location (fieldsOf s) previous = .ok e := by
  have htrim : Text.trim s = s := Text.trimOf_of_forall fun c hc => (h.plain c hc).1
  obtain ⟨fs, kept, hfs, hdropped, rfl⟩ := h
  have hcolon : ∀ f ∈ fs.take kept, ':' ∉ f :=
    fun f hf hmem => (hfs.plain f (List.mem_of_mem_take hf) ':' hmem).2.1 rfl
  apply inherit_of_fieldTexts hfs hbounded
  intro k
  rw [fieldsOf, htrim, field?_pieces_joinWith hcolon, field?_take hdropped]

end Entry.Renders

namespace RendersFrom

variable {es : List Entry} {ss : List (List Char)}

theorem decodeFrom_eq (h : RendersFrom previous es ss) (hbounded : ∀ e ∈ es, e.Bounded) :
    decodeFrom previous ss = .ok es := by
  induction h with
  | nil => rfl
  | cons hs _ ih =>
    obtain ⟨he, hes⟩ := List.forall_mem_cons.mp hbounded
    exact decodeFrom_cons_eq_ok_iff.mpr ⟨_, _, hs.inherit_fieldsOf he _, ih hes, rfl⟩

theorem not_mem (h : RendersFrom previous es ss) : ∀ s ∈ ss, ';' ∉ s := by
  induction h with
  | nil => exact List.forall_mem_nil _
  | cons hs _ ih => exact List.forall_mem_cons.mpr ⟨fun hmem => (hs.plain _ hmem).2 rfl, ih⟩

end RendersFrom

/-- Every rendering decodes to the entries that it renders, each at its own number. -/
theorem decode_rendering {es : List Entry} {compressed : String} (h : Renders es compressed)
    (hne : compressed ≠ "") (hbounded : ∀ e ∈ es, e.Bounded) :
    decode compressed = .ok es ∧
    (∀ (k : Nat) (hk : k < es.length), entryAt es k = .ok es[k]) ∧
    ∀ k : Int, k < 0 ∨ es.length ≤ k → entryAt es k = .error (.sourceMap k es.length) := by
  obtain ⟨ss, hss, htext⟩ := h
  refine ⟨?_, ?_, ?_⟩
  · -- Without any segment the text would be empty.
    have hsome : ss ≠ [] := by
      rintro rfl
      exact hne (String.toList_eq_nil_iff.mp htext)
    rw [decode_eq hne, segments, htext, Text.pieces_joinWith hsome hss.not_mem]
    exact hss.decodeFrom_eq hbounded
  · intro k hk
    rw [entryAt_natCast, List.getElem?_eq_getElem hk]
    rfl
  · rintro k (hk | hk)
    · rw [entryAt, if_pos hk]
    · obtain ⟨n, rfl⟩ := Int.eq_ofNat_of_zero_le (Int.le_trans (Int.natCast_nonneg _) hk)
      rw [entryAt_natCast, List.getElem?_eq_none (Int.ofNat_le.mp hk)]
      rfl

/-- The second segment leaves out all fields, and the third writes a file index that it could leave
out. -/
theorem renders_fourEntries :
    Renders [⟨1, 2, 0, .into⟩, ⟨1, 2, 0, .into⟩, ⟨1, 9, 0, .into⟩, ⟨-3, 9, 1, .out⟩]
      "1:2:0:i;;:9:0;-3::1:o" := by
  have hfirst : Entry.Renders ⟨1, 2, 0, .into⟩ .initial "1:2:0:i".toList :=
    ⟨_, 4, .fields .written .written .written .written, by decide, by decide⟩
  have hsecond : Entry.Renders ⟨1, 2, 0, .into⟩ ⟨1, 2, 0, .into⟩ [] :=
    ⟨_, 0, .fields (.repeated rfl) (.repeated rfl) (.repeated rfl) (.repeated rfl), by decide,
      by decide⟩
  have hthird : Entry.Renders ⟨1, 9, 0, .into⟩ ⟨1, 2, 0, .into⟩ ":9:0".toList :=
    ⟨_, 3, .fields (.repeated rfl) .written .written (.repeated rfl), by decide, by decide⟩
  have hfourth : Entry.Renders ⟨-3, 9, 1, .out⟩ ⟨1, 9, 0, .into⟩ "-3::1:o".toList :=
    ⟨_, 4, .fields .written (.repeated rfl) .written .written, by decide, by decide⟩
  exact ⟨_, .cons hfirst (.cons hsecond (.cons hthird (.cons hfourth .nil))), by decide⟩

theorem fourEntries_rendering :
    decode "1:2:0:i;;:9:0;-3::1:o" =
        .ok [⟨1, 2, 0, .into⟩, ⟨1, 2, 0, .into⟩, ⟨1, 9, 0, .into⟩, ⟨-3, 9, 1, .out⟩] ∧
      (∀ (k : Nat) (hk : k < 4),
        entryAt [⟨1, 2, 0, .into⟩, ⟨1, 2, 0, .into⟩, ⟨1, 9, 0, .into⟩, ⟨-3, 9, 1, .out⟩] k =
          .ok [⟨1, 2, 0, .into⟩, ⟨1, 2, 0, .into⟩, ⟨1, 9, 0, .into⟩, ⟨-3, 9, 1, .out⟩][k]) ∧
      ∀ k : Int, k < 0 ∨ 4 ≤ k →
        entryAt [⟨1, 2, 0, .into⟩, ⟨1, 2, 0, .into⟩, ⟨1, 9, 0, .into⟩, ⟨-3, 9, 1, .out⟩] k =
          .error (.sourceMap k 4) :=
  decode_rendering renders_fourEntries (by decide) (by decide)

end AuditReport.SourceMap
