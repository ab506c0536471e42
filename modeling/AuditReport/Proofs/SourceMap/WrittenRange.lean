import AuditReport.Proofs.SourceMap.Decompression
import AuditReport.Syntax.Node

/-!
# Ranges of source-map entries

The start and the length of a decoded entry are numbers that stand in a field of some segment, or the
-1 that a map begins with. The text of a field holds no colon, so the range of an entry can be written
as the `src` of a syntax-tree node.
-/
namespace AuditReport

namespace SourceMap

def Written (n : Int) : Prop :=
  ∃ s : List Char, ':' ∉ s ∧ Text.Numeral.read? s = some n

structure Entry.Written (e : Entry) : Prop where
  start : SourceMap.Written e.start
  length : SourceMap.Written e.length

theorem Entry.initial_written : Entry.initial.Written :=
  ⟨⟨['-', '1'], by simp, rfl⟩, ⟨['-', '1'], by simp, rfl⟩⟩

theorem written_of_field {s : List Char} {n : Nat} {previous x : Int} (hprevious : Written previous)
    (h : Takes Text.Numeral.read? (field? (Text.pieces ':' s) n) previous x) : Written x := by
  cases hf : field? (Text.pieces ':' s) n with
  | none =>
    rw [hf] at h
    cases h
    exact hprevious
  | some f =>
    rw [hf] at h
    exact ⟨f, Text.not_mem_of_mem_pieces (mem_of_field? hf), h⟩

theorem inherit_written {location : String} {s : List Char} {previous e : Entry}
    (hprevious : previous.Written)
    (h : inherit location (Text.pieces ':' s) previous = .ok e) : e.Written := by
  obtain ⟨hstart, hlength, _, _⟩ := inherit_eq_ok_iff.mp h
  exact ⟨written_of_field hprevious.start hstart, written_of_field hprevious.length hlength⟩

theorem decodeFrom_written {previous : Entry} {segments : List (List Char)} {es : List Entry}
    (hprevious : previous.Written) (h : decodeFrom previous segments = .ok es) :
    ∀ e ∈ es, e.Written := by
  induction segments generalizing previous es with
  | nil =>
    cases h
    exact List.forall_mem_nil _
  | cons s segments ih =>
    obtain ⟨e, rest, he, hrest, rfl⟩ := decodeFrom_cons_eq_ok_iff.mp h
    have hwritten := inherit_written hprevious he
    exact List.forall_mem_cons.mpr ⟨hwritten, ih hwritten hrest⟩

theorem decode_written {compressed : String} {es : List Entry} (h : decode compressed = .ok es) :
    ∀ e ∈ es, e.Written := by
  unfold decode at h
  split at h
  · cases h
    exact List.forall_mem_nil _
  · exact decodeFrom_written Entry.initial_written h

theorem mem_of_entryAt {es : List Entry} {i : Int} {e : Entry} (h : entryAt es i = .ok e) :
    e ∈ es := by
  unfold entryAt at h
  split at h
  · cases h
  · split at h
    · cases h
      rename_i he
      exact List.mem_of_getElem? he
    · cases h

/-- A node can be given the range of an entry. -/
theorem Entry.Written.exists_src {e : Entry} (h : e.Written) :
    ∃ src : String, Syntax.Range.ofSrc (.str src) = some ⟨e.start, e.length⟩ := by
  obtain ⟨⟨s, hs, hstart⟩, ⟨t, ht, hlength⟩⟩ := h
  refine ⟨String.ofList (s ++ ':' :: t), ?_⟩
  rw [Syntax.Range.ofSrc, String.toList_ofList, Text.pieces_append_cons hs,
    Text.pieces_of_not_mem ht]
  simp only [hstart, hlength]
  rfl

end SourceMap
end AuditReport
