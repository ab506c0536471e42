import AuditReport.Command.Disk
import AuditReport.Proofs.Noted

/-!
# Files that are written and read

A file that is written is read from its path as it is: no directory on the way to it is changed. A text is
told by its bytes.
-/
namespace AuditReport

theorem fromUTF8?_toUTF8 (s : String) : String.fromUTF8? s.toUTF8 = some s :=
  dif_pos s.isValidUTF8

namespace Disk

variable {d : Disk} {place other : List (List Char)} {path : String} {bytes : ByteArray}

theorem at?_put_self (h : isGiven place = false) (n : DiskNode) : (d.put place n).at? place = some n := by
  have hfind : (d.put place n).nodes.find? (fun m => m.1 == place) = some (place, n) :=
    List.find?_cons_of_pos (beq_self_eq_true place)
  rw [at?, h, if_neg Bool.false_ne_true, hfind, Option.map_some]

theorem at?_put_of_ne (h : other ≠ place) (n : DiskNode) : (d.put place n).at? other = d.at? other := by
  have hfind : (d.put place n).nodes.find? (fun m => m.1 == other) =
      d.nodes.find? fun m => m.1 == other := by
    rw [put, List.find?_cons_of_neg (by simpa using h.symm), List.find?_filter]
    congr 1
    funext m
    by_cases hm : m.1 = other
    · simp [hm, h]
    · simp [hm]
  rw [at?, at?, hfind]

/-- A place where there is no directory is on the way to no other place. -/
theorem follow_put (h : d.at? place ≠ some .directory) {n : DiskNode} {start last : List (List Char)}
    {cs : List (List Char)} (hlast : d.follow start cs = .ok last) :
    (d.put place n).follow start cs = .ok last := by
  induction cs generalizing start with
  | nil => exact hlast
  | cons c cs ih =>
    rw [follow] at hlast ⊢
    cases hstart : d.at? start with
    | none =>
      rw [hstart] at hlast
      cases hlast
    | some m =>
      rw [hstart] at hlast
      cases m with
      | file bytes => cases hlast
      | directory =>
        have hne : start ≠ place := by
          rintro rfl
          exact h hstart
        rw [at?_put_of_ne hne, hstart]
        dsimp only at hlast ⊢
        split_ifs at hlast ⊢
        exact ih hlast

/-- What makes a file that can be written: its place, at which there is no directory. -/
theorem of_write_eq_ok {d' : Disk} (h : d.write path bytes = .ok d') : ∃ place,
    d.locate path = .ok place ∧ d.at? place ≠ some .directory ∧ d' = d.put place (.file bytes) := by
  cases hplace : d.locate path with
  | error flaw =>
    simp only [write, hplace, bind, Except.bind] at h
    cases h
  | ok place =>
    simp only [write, hplace, bind, Except.bind] at h
    refine ⟨place, rfl, ?_⟩
    by_cases hat : d.at? place = some .directory
    · simp only [hat] at h
      cases h
    · refine ⟨hat, ?_⟩
      cases hparent : d.at? place.dropLast with
      | none =>
        simp only [hparent] at h
        cases h
      | some parent =>
        cases parent with
        | file content =>
          simp only [hparent] at h
          cases h
        | directory =>
          simp only [hparent] at h
          cases h
          rfl

theorem read_of_write {d' : Disk} (h : d.write path bytes = .ok d') : d'.read path = .ok bytes := by
  obtain ⟨place, hplace, hat, rfl⟩ := of_write_eq_ok h
  have hgiven : isGiven place = false := by
    by_contra hgiven
    exact hat (if_pos (eq_true_of_ne_false hgiven))
  have hlocate : (d.put place (.file bytes)).locate path = .ok place := by
    unfold locate at hplace ⊢
    split_ifs at hplace ⊢
    exact follow_put hat hplace
  simp only [read, hlocate, bind, Except.bind, at?_put_self hgiven]
  rfl

end Disk
end AuditReport
