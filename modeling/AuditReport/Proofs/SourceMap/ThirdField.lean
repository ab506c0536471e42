import AuditReport.Proofs.SourceMap.WrittenRange
import AuditReport.SourceMap.Location

/-!
# The third field of a location

The file index of a location is the third field of its first segment. A location misnumbers its file
if that field is there, is not blank and is no integer; every other location has an index or none.
-/
namespace AuditReport.SourceMap

/-- What stands between the second colon and the next colon, semicolon or end of the text, where no
semicolon comes before. -/
def ThirdField (location : String) (field : List Char) : Prop :=
  ∃ first second rest, location.toList = first ++ ':' :: (second ++ ':' :: (field ++ rest)) ∧
    (∀ p ∈ [first, second, field], ':' ∉ p ∧ ';' ∉ p) ∧ ∀ c ∈ rest.head?, c = ':' ∨ c = ';'

def MisnumbersFile (location : String) : Prop :=
  ∃ field, ThirdField location field ∧ Text.trim field ≠ [] ∧
    Text.Numeral.read? (Text.trim field) = none

def NumbersFile (location : String) (i : Int) : Prop :=
  ∃ field, ThirdField location field ∧ Text.Numeral.read? (Text.trim field) = some i

/-- There is no third field, or it holds nothing but blanks or the integer -1. -/
def NamesNoFile (location : String) : Prop :=
  (¬ ∃ field, ThirdField location field) ∨
    ∃ field, ThirdField location field ∧
      (Text.trim field = [] ∨ Text.Numeral.read? (Text.trim field) = some (-1))

theorem getElem?_pieces_of_thirdField {location : String} {field : List Char}
    (h : ThirdField location field) :
    (Text.pieces ':' (Text.firstPiece ';' location.toList))[2]? = some field := by
  obtain ⟨first, second, rest, hlocation, hclean, hrest⟩ := h
  simp only [List.forall_mem_cons] at hclean
  obtain ⟨⟨hf, hf'⟩, ⟨hs, hs'⟩, ⟨ht, ht'⟩, _⟩ := hclean
  have hfront : ∀ c ∈ first ++ ':' :: (second ++ ':' :: field), c ≠ ';' := by
    rintro c hc rfl
    simp [hf', hs', ht'] at hc
  have hsegment : Text.firstPiece ';' location.toList =
      first ++ ':' :: (second ++ ':' :: (field ++ Text.firstPiece ';' rest)) := by
    have hsplit : location.toList = (first ++ ':' :: (second ++ ':' :: field)) ++ rest := by
      simp [hlocation]
    rw [hsplit, Text.firstPiece_append hfront]
    simp
  have hhead : ∀ c ∈ (Text.firstPiece ';' rest).head?, c = ':' := by
    cases rest with
    | nil => exact nofun
    | cons c rest =>
      rcases hrest c rfl with rfl | rfl
      · exact fun d hd => (Option.some.inj hd).symm
      · exact nofun
  obtain ⟨more, hmore⟩ := Text.exists_pieces_eq_cons_iff.mpr ⟨_, rfl, ht, hhead⟩
  rw [hsegment, Text.pieces_append_cons hf, Text.pieces_append_cons hs, hmore]
  rfl

theorem thirdField_of_getElem?_pieces {location : String} {field : List Char}
    (h : (Text.pieces ':' (Text.firstPiece ';' location.toList))[2]? = some field) :
    ThirdField location field := by
  obtain ⟨rest, hlocation, hsemicolon, hrest⟩ := Text.exists_firstPiece ';' location.toList
  match hpieces : Text.pieces ':' (Text.firstPiece ';' location.toList), h with
  | first :: second :: third :: more, h =>
    cases h
    obtain ⟨tail, hsegment, hf, htail⟩ := Text.pieces_eq_cons_cons_iff.mp hpieces
    obtain ⟨tail, rfl, hs, htail⟩ := Text.pieces_eq_cons_cons_iff.mp htail
    obtain ⟨tail, rfl, ht, hhead⟩ := Text.exists_pieces_eq_cons_iff.mp ⟨more, htail⟩
    rw [hsegment] at hlocation hsemicolon
    refine ⟨first, second, tail ++ rest, ?_, ?_, ?_⟩
    · rw [hlocation]
      simp
    · simp only [List.mem_append, List.mem_cons, not_or] at hsemicolon
      simp only [List.forall_mem_cons]
      exact ⟨⟨hf, hsemicolon.1⟩, ⟨hs, hsemicolon.2.2.1⟩, ⟨ht, hsemicolon.2.2.2.2.1⟩,
        List.forall_mem_nil _⟩
    · intro c hc
      cases tail with
      | nil => exact Or.inr (hrest c hc)
      | cons d tail => exact Or.inl (hhead c hc)

/-- The index of a location cannot be read exactly if its third field is no integer. -/
theorem fileIndex_eq_error_iff {location : String} {e : Fault} :
    fileIndex location = .error e ↔ MisnumbersFile location ∧ e = .location "sourceMap" location := by
  rw [fileIndex]
  cases hfield : (Text.pieces ':' (Text.firstPiece ';' location.toList))[2]? with
  | none =>
    refine ⟨nofun, ?_⟩
    rintro ⟨⟨field, hthird, _⟩, _⟩
    rw [getElem?_pieces_of_thirdField hthird] at hfield
    cases hfield
  | some field =>
    have hmisnumbers : MisnumbersFile location ↔
        Text.trim field ≠ [] ∧ Text.Numeral.read? (Text.trim field) = none := by
      constructor
      · rintro ⟨other, hthird, hother⟩
        rw [getElem?_pieces_of_thirdField hthird] at hfield
        cases hfield
        exact hother
      · exact fun h => ⟨field, thirdField_of_getElem?_pieces hfield, h⟩
    rw [hmisnumbers]
    change (if (Text.trim field).isEmpty then .ok none
      else (integer location (Text.trim field)).map some) = .error e ↔ _
    by_cases hblank : Text.trim field = []
    · simp [hblank]
    · cases hread : Text.Numeral.read? (Text.trim field) with
      | none =>
        have hinteger : integer location (Text.trim field) =
            .error (.location "sourceMap" location) := by
          rw [integer, hread]
        rw [hinteger, if_neg (by simpa using hblank)]
        simp only [Except.map, Except.error.injEq, ne_eq, hblank, not_false_eq_true, true_and]
        exact eq_comm
      | some n =>
        rw [integer_eq_ok_iff.mpr hread, if_neg (by simpa using hblank)]
        simp [Except.map]

theorem fileIndex_of_not_thirdField {location : String} (h : ¬ ∃ field, ThirdField location field) :
    fileIndex location = .ok none := by
  rw [fileIndex]
  cases hfield : (Text.pieces ':' (Text.firstPiece ';' location.toList))[2]? with
  | none => rfl
  | some field => exact absurd ⟨field, thirdField_of_getElem?_pieces hfield⟩ h

theorem fileIndex_of_blank {location : String} {field : List Char} (h : ThirdField location field)
    (hblank : Text.trim field = []) : fileIndex location = .ok none := by
  rw [fileIndex, getElem?_pieces_of_thirdField h]
  simp only [hblank, List.isEmpty_nil, if_true]

theorem fileIndex_of_numbersFile {location : String} {i : Int} (h : NumbersFile location i) :
    fileIndex location = .ok (some i) := by
  obtain ⟨field, hfield, hread⟩ := h
  have hne : (Text.trim field).isEmpty = false := by
    rw [List.isEmpty_eq_false_iff]
    intro hempty
    rw [hempty] at hread
    cases hread
  rw [fileIndex, getElem?_pieces_of_thirdField hfield]
  simp only [hne, integer_eq_ok_iff.mpr hread]
  rfl

theorem fileIndex_of_namesNoFile {location : String} (h : NamesNoFile location) :
    fileIndex location = .ok none ∨ fileIndex location = .ok (some (-1)) := by
  rcases h with hnone | ⟨field, hfield, hblank | hread⟩
  · exact Or.inl (fileIndex_of_not_thirdField hnone)
  · exact Or.inl (fileIndex_of_blank hfield hblank)
  · exact Or.inr (fileIndex_of_numbersFile ⟨field, hfield, hread⟩)

end AuditReport.SourceMap
