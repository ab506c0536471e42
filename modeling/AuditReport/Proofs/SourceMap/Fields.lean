import AuditReport.Proofs.Noted
import AuditReport.SourceMap.Entry
import Mathlib.Tactic.IntervalCases

/-!
# Fields of an entry

An entry takes each of its values from the field that writes it, or from another entry where the field is
left out. It can be read exactly if every field that is written can be; a number that cannot be read is
told before a jump that cannot.
-/
namespace AuditReport.SourceMap

/-- A value is the one that a field writes, or another one when there is no field. -/
def Takes {α : Type} (read : List Char → Option α) (field : Option (List Char))
    (other value : α) : Prop :=
  field.elim (value = other) fun f => read f = some value

def Readable {α : Type} (read : List Char → Option α) (field : Option (List Char)) : Prop :=
  ∀ f, field = some f → ∃ a, read f = some a

def NumbersLegible (fields : List (List Char)) : Prop :=
  ∀ n < 3, Readable Text.Numeral.read? (field? fields n)

/-- The fourth field, if it is written, is a single letter that stands for a jump. -/
def JumpLegible (fields : List (List Char)) : Prop :=
  ∀ f, field? fields 3 = some f → ∃ j : Jump, f = [j.letter]

theorem mem_of_field? {fields : List (List Char)} {n : Nat} {f : List Char}
    (h : field? fields n = some f) : f ∈ fields := by
  unfold field? at h
  split at h
  · cases h
  · exact List.mem_of_getElem? h

def readOr {α : Type} (read : List Char → Option α) (fault : Fault) (s : List Char) :
    Except Fault α :=
  (read s).elim (.error fault) .ok

theorem integer_eq (location : String) :
    integer location = readOr Text.Numeral.read? (.location "sourceMap" location) := by
  funext s
  rw [integer, readOr]
  cases Text.Numeral.read? s <;> rfl

theorem jump_eq (location : String) :
    jump location = readOr Jump.ofText? (.location "jumpType" location) := by
  funext s
  rw [jump, readOr]
  cases Jump.ofText? s <;> rfl

theorem integer_eq_ok_iff {location : String} {s : List Char} {x : Int} :
    integer location s = .ok x ↔ Text.Numeral.read? s = some x := by
  rw [integer_eq, readOr]
  cases Text.Numeral.read? s <;> simp

section Field

variable {α β : Type} {read : List Char → Option α} {fault : Fault} {field : Option (List Char)}
  {other value : α}

theorem exists_takes_iff : (∃ v, Takes read field other v) ↔ Readable read field := by
  cases field <;> simp [Takes, Readable]

theorem elim_readOr_eq_ok_iff :
    field.elim (.ok other) (readOr read fault) = .ok value ↔ Takes read field other value := by
  cases field with
  | none => simp [Takes, eq_comm]
  | some s => cases hs : read s <;> simp [Takes, readOr, hs]

theorem elim_readOr_eq_error_iff {e : Fault} :
    field.elim (.ok other) (readOr read fault) = .error e ↔ ¬ Readable read field ∧ e = fault := by
  cases field with
  | none => simp [Readable]
  | some s => cases hs : read s <;> simp [Readable, readOr, hs, eq_comm]

/-- A field fails by itself, or what follows fails whatever the field holds. -/
theorem bind_field_eq_error_iff {next : α → Except Fault β} {e : Fault} {P : Prop}
    (hnext : ∀ a, next a = .error e ↔ P) :
    field.elim (.ok other) (readOr read fault) >>= next = .error e ↔
      ¬ Readable read field ∧ e = fault ∨ Readable read field ∧ P := by
  rw [Noted.bind_eq_error_iff, elim_readOr_eq_error_iff]
  simp only [hnext, elim_readOr_eq_ok_iff, exists_and_right, exists_takes_iff]

end Field

variable {location : String} {fields : List (List Char)} {previous e : Entry}

theorem inherit_eq (location : String) (fields : List (List Char)) (previous : Entry) :
    inherit location fields previous = do
      let number := readOr Text.Numeral.read? (.location "sourceMap" location)
      let start ← (field? fields 0).elim (.ok previous.start) number
      let length ← (field? fields 1).elim (.ok previous.length) number
      let fileIndex ← (field? fields 2).elim (.ok previous.fileIndex) number
      let jump ← (field? fields 3).elim (.ok previous.jump)
        (readOr Jump.ofText? (.location "jumpType" location))
      return ⟨start, length, fileIndex, jump⟩ := by
  rw [← integer_eq, ← jump_eq]
  unfold inherit
  cases field? fields 0 <;> cases field? fields 1 <;> cases field? fields 2 <;>
    cases field? fields 3 <;> rfl

theorem inherit_eq_ok_iff : inherit location fields previous = .ok e ↔
    Takes Text.Numeral.read? (field? fields 0) previous.start e.start ∧
    Takes Text.Numeral.read? (field? fields 1) previous.length e.length ∧
    Takes Text.Numeral.read? (field? fields 2) previous.fileIndex e.fileIndex ∧
    Takes Jump.ofText? (field? fields 3) previous.jump e.jump := by
  rw [inherit_eq]
  simp only [Noted.bind_eq_ok_iff, elim_readOr_eq_ok_iff]
  constructor
  · rintro ⟨start, hstart, length, hlength, fileIndex, hfile, jump, hjump, h⟩
    cases h
    exact ⟨hstart, hlength, hfile, hjump⟩
  · rintro ⟨hstart, hlength, hfile, hjump⟩
    exact ⟨_, hstart, _, hlength, _, hfile, _, hjump, rfl⟩

theorem Jump.ofText?_eq_some_iff {s : List Char} {j : Jump} : Jump.ofText? s = some j ↔ s = [j.letter] := by
  constructor
  · intro h
    unfold Jump.ofText? at h
    split at h <;> cases h <;> rfl
  · rintro rfl
    exact Jump.ofText?_letter j

theorem jumpLegible_iff : JumpLegible fields ↔ Readable Jump.ofText? (field? fields 3) := by
  simp only [JumpLegible, Readable, Jump.ofText?_eq_some_iff]

theorem numbersLegible_iff : NumbersLegible fields ↔
    Readable Text.Numeral.read? (field? fields 0) ∧ Readable Text.Numeral.read? (field? fields 1) ∧
      Readable Text.Numeral.read? (field? fields 2) := by
  constructor
  · exact fun h => ⟨h 0 (by omega), h 1 (by omega), h 2 (by omega)⟩
  · rintro ⟨h0, h1, h2⟩ n hn
    interval_cases n <;> assumption

theorem exists_inherit_iff :
    (∃ e, inherit location fields previous = .ok e) ↔ NumbersLegible fields ∧ JumpLegible fields := by
  rw [numbersLegible_iff, jumpLegible_iff]
  constructor
  · rintro ⟨e, he⟩
    obtain ⟨hstart, hlength, hfile, hjump⟩ := inherit_eq_ok_iff.mp he
    exact ⟨⟨exists_takes_iff.mp ⟨_, hstart⟩, exists_takes_iff.mp ⟨_, hlength⟩,
      exists_takes_iff.mp ⟨_, hfile⟩⟩, exists_takes_iff.mp ⟨_, hjump⟩⟩
  · rintro ⟨⟨h0, h1, h2⟩, h3⟩
    obtain ⟨start, hstart⟩ := exists_takes_iff.mpr h0
    obtain ⟨length, hlength⟩ := exists_takes_iff.mpr h1
    obtain ⟨fileIndex, hfile⟩ := exists_takes_iff.mpr h2
    obtain ⟨jump, hjump⟩ := exists_takes_iff.mpr h3
    exact ⟨⟨start, length, fileIndex, jump⟩, inherit_eq_ok_iff.mpr ⟨hstart, hlength, hfile, hjump⟩⟩

/-- A number that cannot be read is told before a jump. -/
theorem inherit_eq_error_iff {fault : Fault} : inherit location fields previous = .error fault ↔
    ¬ NumbersLegible fields ∧ fault = .location "sourceMap" location ∨
      NumbersLegible fields ∧ ¬ JumpLegible fields ∧ fault = .location "jumpType" location := by
  rw [inherit_eq, numbersLegible_iff, jumpLegible_iff]
  have hentry : ∀ e : Entry, (.ok e : Except Fault Entry) = .error fault ↔ False := by simp
  refine (bind_field_eq_error_iff fun start => bind_field_eq_error_iff fun length =>
    bind_field_eq_error_iff fun fileIndex => bind_field_eq_error_iff fun jump =>
      hentry ⟨start, length, fileIndex, jump⟩).trans ?_
  tauto

end AuditReport.SourceMap
