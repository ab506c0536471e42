import AuditReport.Proofs.SourceMap.Rendering
import AuditReport.SourceMap.Location

/-!
# Entries as location texts

The numbers of an entry can be written out as the text of a location. Those of a decoded entry are short
enough to be read back, since they come from numerals themselves.
-/
namespace AuditReport.SourceMap

/-- What holds of everything that can be read and of the default holds of what is written last. -/
theorem LastWritten.of_forall {α : Type} {read : List Char → Option α} {default v : α}
    {column : Nat → Option (List Char)} {k : Nat} {P : α → Prop}
    (h : LastWritten read default column k v) (hdefault : P default)
    (hread : ∀ f x, read f = some x → P x) : P v := by
  cases h with
  | written _ _ hv _ => exact hread _ _ hv
  | never _ => exact hdefault

theorem decode_bounded {compressed : String} {es : List Entry} (h : decode compressed = .ok es) :
    ∀ e ∈ es, e.Bounded := by
  intro e he
  by_cases hempty : compressed = ""
  · rw [decode, if_pos hempty] at h
    cases h
    cases he
  · rw [decode_eq hempty] at h
    obtain ⟨k, hk⟩ := List.mem_iff_getElem?.mp he
    obtain ⟨hstart, hlength, hfile, _⟩ := isLastWritten_of_decodeFrom h hk
    have hread : ∀ f (x : Int), Text.Numeral.read? f = some x →
        (Nat.toDigits 10 x.natAbs).length ≤ Text.Numeral.maxDigits :=
      fun _ _ => Text.Numeral.length_toDigits_of_read?
    simp only [Entry.Bounded, List.forall_mem_cons]
    exact ⟨hstart.of_forall (by decide) hread, hlength.of_forall (by decide) hread,
      hfile.of_forall (by decide) hread, List.forall_mem_nil _⟩

def Entry.locationText (e : Entry) : String :=
  s!"{e.start}:{e.length}:{e.fileIndex}"

variable {e : Entry}

theorem toList_locationText (e : Entry) : e.locationText.toList =
    Text.joinWith ':' [decimal e.start, decimal e.length, decimal e.fileIndex] := by
  have hcolon : (toString ":").toList = [':'] := rfl
  simp [Entry.locationText, Text.joinWith, decimal, hcolon]

/-- A location text leaves the jump out, which is then the regular one. -/
theorem renders_locationText (e : Entry) :
    Entry.Renders { e with jump := .regular } .initial e.locationText.toList :=
  ⟨_, 3, .fields .written .written .written (.repeated rfl), by simp, toList_locationText e⟩

theorem firstSegment_locationText (e : Entry) : firstSegment e.locationText = e.locationText := by
  have hplain := (renders_locationText e).plain
  have hpiece : Text.firstPiece ';' e.locationText.toList = e.locationText.toList :=
    List.takeWhile_eq_self_iff.mpr fun c hc => bne_iff_ne.mpr (hplain c hc).2
  rw [firstSegment, hpiece, String.ofList_toList]

theorem read_locationText (h : e.Bounded) :
    Entry.read e.locationText = .ok { e with jump := .regular } := by
  have hrenders := renders_locationText e
  have htrim : Text.trim e.locationText.toList = e.locationText.toList :=
    Text.trimOf_of_forall fun c hc => (hrenders.plain c hc).1
  have hcolon : ∀ f ∈ [decimal e.start, decimal e.length, decimal e.fileIndex], ':' ∉ f := by
    simp only [List.forall_mem_cons]
    have hdecimal : ∀ n, ':' ∉ decimal n := fun n hmem => (plain_of_mem_decimal ':' hmem).2.1 rfl
    exact ⟨hdecimal _, hdecimal _, hdecimal _, List.forall_mem_nil _⟩
  have hfields : fieldsOf e.locationText.toList =
      [decimal e.start, decimal e.length, decimal e.fileIndex] := by
    rw [fieldsOf, htrim, toList_locationText, Text.pieces_joinWith (List.cons_ne_nil _ _) hcolon]
  have hinherit := hrenders.inherit_fieldsOf (e := { e with jump := .regular }) h e.locationText
  rw [hfields] at hinherit
  have hfirst : field? [decimal e.start, decimal e.length, decimal e.fileIndex] 0 =
      some (decimal e.start) := by
    rw [field?_eq_bind]
    exact if_neg (decimal_ne_nil e.start)
  have hsecond : field? [decimal e.start, decimal e.length, decimal e.fileIndex] 1 =
      some (decimal e.length) := by
    rw [field?_eq_bind]
    exact if_neg (decimal_ne_nil e.length)
  rw [fieldsOf] at hfields
  simp only [Entry.read, hfields, hfirst, hsecond]
  exact hinherit

end AuditReport.SourceMap
