import AuditReport.Proofs.Location.BytecodeLocation
import AuditReport.Proofs.SourceMap.ThirdField
import AuditReport.Proofs.Text.Trimmed

/-!
# The readers of a location

A location is read as an entry, as the offset of an instruction, as the index of a file and as a map of
one segment. These readers take the blanks away at different places, the segment first or each field on
its own; where an entry can be read, they come to the same numbers.
-/
namespace AuditReport.SourceMap

def WritesStartAndLength (segment : List Char) : Prop :=
  ∃ start length rest, segment = start ++ ':' :: (length ++ rest) ∧
    (start ≠ [] ∧ ':' ∉ start) ∧ (length ≠ [] ∧ ':' ∉ length) ∧ ∀ c ∈ rest.head?, c = ':'

structure ReadElsewhere (location : String) (e : Entry) : Prop where
  offset : bytecodeOffset location = .ok e.start
  numbered : ∀ field, ThirdField location field → Text.trim field ≠ [] →
    fileIndex location = .ok (some e.fileIndex)
  unnumbered : (∀ field, ThirdField location field → Text.trim field = []) →
    fileIndex location = .ok none ∧ e.fileIndex = -1
  decoded : decode (firstSegment location) = .ok [e]

structure ReadersAgree (location : String) : Prop where
  elsewhere : ∀ e, Entry.read (firstSegment location) = .ok e → ReadElsewhere location e
  complete : ∀ es, decode (firstSegment location) = .ok es →
    WritesStartAndLength (Text.trim (firstSegment location).toList) →
    ∃ e, es.head? = some e ∧ Entry.read (firstSegment location) = .ok e

theorem field?_eq_some_iff {fields : List (List Char)} {n : Nat} {f : List Char} :
    field? fields n = some f ↔ fields[n]? = some f ∧ f ≠ [] := by
  unfold field?
  split
  · rename_i h
    rw [h]
    exact ⟨nofun, fun ⟨hf, hne⟩ => absurd (Option.some.inj hf).symm hne⟩
  · rename_i h
    exact ⟨fun hf => ⟨hf, fun hne => h (hne ▸ hf)⟩, And.left⟩

theorem start_of_inherit {text : String} {fields : List (List Char)} {previous e : Entry} {f : List Char}
    (h : inherit text fields previous = .ok e) (hf : field? fields 0 = some f) :
    Text.Numeral.read? f = some e.start := by
  obtain ⟨hstart, _⟩ := inherit_eq_ok_iff.mp h
  rwa [hf] at hstart

theorem fileIndex_of_inherit {text : String} {fields : List (List Char)} {previous e : Entry}
    (h : inherit text fields previous = .ok e) :
    field? fields 2 = none ∧ e.fileIndex = previous.fileIndex ∨
      ∃ f, field? fields 2 = some f ∧ Text.Numeral.read? f = some e.fileIndex := by
  obtain ⟨_, _, hindex, _⟩ := inherit_eq_ok_iff.mp h
  cases hf : field? fields 2 with
  | none =>
    rw [hf] at hindex
    exact Or.inl ⟨rfl, hindex⟩
  | some f =>
    rw [hf] at hindex
    exact Or.inr ⟨f, rfl, hindex⟩

theorem writesStartAndLength_iff {segment : List Char} : WritesStartAndLength segment ↔
    ∃ start length, field? (Text.pieces ':' segment) 0 = some start ∧
      field? (Text.pieces ':' segment) 1 = some length := by
  simp only [field?_eq_some_iff]
  constructor
  · rintro ⟨start, length, rest, hsegment, ⟨hs, hs'⟩, ⟨hl, hl'⟩, hhead⟩
    obtain ⟨more, hmore⟩ := Text.exists_pieces_eq_cons_iff.mpr ⟨rest, rfl, hl', hhead⟩
    rw [Text.pieces_eq_cons_cons_iff.mpr ⟨_, hsegment, hs', hmore⟩]
    exact ⟨start, length, ⟨rfl, hs⟩, rfl, hl⟩
  · rintro ⟨start, length, ⟨hstart, hs⟩, ⟨hlength, hl⟩⟩
    match hpieces : Text.pieces ':' segment, hstart, hlength with
    | first :: second :: more, hstart, hlength =>
      cases hstart
      cases hlength
      obtain ⟨tail, hsegment, hs', htail⟩ := Text.pieces_eq_cons_cons_iff.mp hpieces
      obtain ⟨rest, rfl, hl', hhead⟩ := Text.exists_pieces_eq_cons_iff.mp ⟨more, htail⟩
      exact ⟨start, length, rest, hsegment, ⟨hs, hs'⟩, ⟨hl, hl'⟩, hhead⟩

theorem read_eq_ok_iff {segment : String} {e : Entry} : Entry.read segment = .ok e ↔
    WritesStartAndLength (Text.trim segment.toList) ∧
      inherit segment (fieldsOf segment.toList) .initial = .ok e := by
  simp only [Entry.read, writesStartAndLength_iff, fieldsOf]
  generalize Text.pieces ':' (Text.trim segment.toList) = fields
  cases field? fields 0 with
  | none => simp
  | some start => cases field? fields 1 <;> simp

variable {location : String} {e : Entry}

theorem toList_firstSegment (location : String) :
    (firstSegment location).toList = Text.firstPiece ';' location.toList :=
  String.toList_ofList

theorem segments_firstSegment (location : String) :
    segments (firstSegment location) = [(firstSegment location).toList] := by
  obtain ⟨_, _, hnot, _⟩ := Text.exists_firstPiece ';' location.toList
  rw [segments, toList_firstSegment, Text.pieces_of_not_mem hnot]

/-- A segment with a start is not the empty map, so it has the one entry that its fields write. -/
theorem decode_firstSegment_eq_ok_iff {es : List Entry}
    (h : WritesStartAndLength (Text.trim (firstSegment location).toList)) :
    decode (firstSegment location) = .ok es ↔
      ∃ e, inherit (firstSegment location) (fieldsOf (firstSegment location).toList) .initial = .ok e ∧
        [e] = es := by
  have hne : firstSegment location ≠ "" := by
    intro hempty
    obtain ⟨start, length, rest, hsegment, _⟩ := h
    rw [hempty] at hsegment
    exact absurd hsegment.symm (List.append_ne_nil_of_right_ne_nil start (List.cons_ne_nil _ _))
  rw [decode_eq hne, segments_firstSegment, decodeFrom_cons_eq_ok_iff]
  simp only [inherit_eq_ok_iff, decodeFrom, Except.ok.injEq]
  constructor
  · rintro ⟨e, _, he, rfl, rfl⟩
    exact ⟨e, he, rfl⟩
  · rintro ⟨e, he, rfl⟩
    exact ⟨e, [], he, rfl, rfl⟩

/-- A field of a location and that of its trimmed segment differ by blanks at most. -/
theorem trim_getElem?_fieldsOf (s : List Char) (k : Nat) :
    (fieldsOf s)[k]?.map Text.trim = (Text.pieces ':' s)[k]?.map Text.trim := by
  rw [← List.getElem?_map, ← List.getElem?_map, fieldsOf]
  exact congrArg (·[k]?) (Text.map_trimOf_pieces (p := Text.isBlank) (by decide) s)

theorem bytecodeOffset_of_read (h : Entry.read (firstSegment location) = .ok e) :
    bytecodeOffset location = .ok e.start := by
  obtain ⟨hwritten, hinherit⟩ := read_eq_ok_iff.mp h
  obtain ⟨start, _, hstart, _⟩ := writesStartAndLength_iff.mp hwritten
  have htrim : Text.trim (Text.firstPiece ':' (Text.firstPiece ';' location.toList)) =
      Text.trim start := by
    have hfields := trim_getElem?_fieldsOf (firstSegment location).toList 0
    rw [fieldsOf, (field?_eq_some_iff.mp hstart).1, ← List.head?_eq_getElem?, Text.head?_pieces,
      toList_firstSegment] at hfields
    exact (Option.some.inj hfields).symm
  rw [bytecodeOffset, htrim]
  exact integer_eq_ok_iff.mpr (Text.Numeral.read?_trim (start_of_inherit hinherit hstart))

/-- A location numbers the file of the entry that it writes, or leaves it out where the entry has none. -/
theorem index_of_read (h : Entry.read (firstSegment location) = .ok e) :
    NumbersFile location e.fileIndex ∨
      (∀ field, ThirdField location field → Text.trim field = []) ∧ e.fileIndex = -1 := by
  have hthird : ∀ field, ThirdField location field →
      (fieldsOf (firstSegment location).toList)[2]?.map Text.trim = some (Text.trim field) := by
    intro field hfield
    rw [trim_getElem?_fieldsOf, toList_firstSegment, getElem?_pieces_of_thirdField hfield]
    rfl
  rcases fileIndex_of_inherit (read_eq_ok_iff.mp h).2 with ⟨hnone, hindex⟩ | ⟨f, hf, hread⟩
  · refine Or.inr ⟨fun field hfield => ?_, hindex⟩
    obtain ⟨g, hg, htrim⟩ := Option.map_eq_some_iff.mp (hthird field hfield)
    -- A third field that is not written in the trimmed segment has nothing but blanks before trimming.
    have hempty : g = [] := by
      by_contra hne
      rw [field?_eq_some_iff.mpr ⟨hg, hne⟩] at hnone
      cases hnone
    rw [← htrim, hempty]
    rfl
  · have hfields := trim_getElem?_fieldsOf (firstSegment location).toList 2
    rw [(field?_eq_some_iff.mp hf).1, toList_firstSegment] at hfields
    obtain ⟨field, hpiece, htrim⟩ := Option.map_eq_some_iff.mp hfields.symm
    refine Or.inl ⟨field, thirdField_of_getElem?_pieces hpiece, ?_⟩
    rw [htrim]
    exact Text.Numeral.read?_trim hread

theorem fileIndex_of_blanks (h : ∀ field, ThirdField location field → Text.trim field = []) :
    fileIndex location = .ok none := by
  by_cases hthird : ∃ field, ThirdField location field
  · obtain ⟨field, hfield⟩ := hthird
    exact fileIndex_of_blank hfield (h field hfield)
  · exact fileIndex_of_not_thirdField hthird

theorem NumbersFile.exists_thirdField {i : Int} (h : NumbersFile location i) :
    ∃ field, ThirdField location field ∧ Text.trim field ≠ [] := by
  obtain ⟨field, hfield, hread⟩ := h
  refine ⟨field, hfield, fun hblank => ?_⟩
  rw [hblank] at hread
  cases hread

/-- All readers of a location come to the numbers of the entry that it writes, and only an entry that
leaves its start or its length out can be read from a map alone. -/
theorem readersAgree (location : String) : ReadersAgree location where
  elsewhere e he := by
    obtain ⟨hwritten, hinherit⟩ := read_eq_ok_iff.mp he
    refine ⟨bytecodeOffset_of_read he, ?_, ?_, (decode_firstSegment_eq_ok_iff hwritten).mpr
      ⟨e, hinherit, rfl⟩⟩
    · intro field hfield hne
      rcases index_of_read he with hindex | ⟨hblank, _⟩
      · exact fileIndex_of_numbersFile hindex
      · exact absurd (hblank field hfield) hne
    · intro hblank
      refine ⟨fileIndex_of_blanks hblank, ?_⟩
      rcases index_of_read he with hindex | ⟨_, hindex⟩
      · obtain ⟨field, hfield, hne⟩ := hindex.exists_thirdField
        exact absurd (hblank field hfield) hne
      · exact hindex
  complete es hes hwritten := by
    obtain ⟨e, he, rfl⟩ := (decode_firstSegment_eq_ok_iff hwritten).mp hes
    exact ⟨e, rfl, read_eq_ok_iff.mpr ⟨hwritten, he⟩⟩

/-- Blanks stand around every field, and the file is numbered in another script. -/
theorem readersAgree_of_blanks :
    Entry.read (firstSegment "\x1c 3 :\t+2: ٤:i ; 7") = .ok ⟨3, 2, 4, .into⟩ ∧
      bytecodeOffset "\x1c 3 :\t+2: ٤:i ; 7" = .ok 3 ∧
      fileIndex "\x1c 3 :\t+2: ٤:i ; 7" = .ok (some 4) ∧
      decode (firstSegment "\x1c 3 :\t+2: ٤:i ; 7") = .ok [⟨3, 2, 4, .into⟩] := by
  have hread : Entry.read (firstSegment "\x1c 3 :\t+2: ٤:i ; 7") = .ok ⟨3, 2, 4, .into⟩ := by rfl
  have hthird : ThirdField "\x1c 3 :\t+2: ٤:i ; 7" [' ', '٤'] :=
    thirdField_of_getElem?_pieces (by rfl)
  obtain ⟨hoffset, hnumbered, _, hdecoded⟩ := (readersAgree "\x1c 3 :\t+2: ٤:i ; 7").elsewhere _ hread
  exact ⟨hread, hoffset, hnumbered _ hthird (by decide), hdecoded⟩

end AuditReport.SourceMap
