import AuditReport.Text.Split
import Mathlib.Data.List.DropRight
import Mathlib.Data.List.TakeWhile

/-!
# What pieces hold

No piece holds the separator, and a text without the separator is its only piece. The first piece ends
where the text ends or a separator stands, and the last one is what follows the last separator.
-/
namespace AuditReport.Text

variable {sep : Char}

theorem pieces_append_cons {p : List Char} (hp : sep ∉ p) (r : List Char) :
    pieces sep (p ++ sep :: r) = p :: pieces sep r := by
  induction p with
  | nil => simp [pieces]
  | cons c p ih =>
    have hc := List.ne_of_not_mem_cons hp
    rw [List.cons_append, pieces, if_neg hc.symm, ih (List.not_mem_of_not_mem_cons hp)]
    rfl

theorem pieces_of_not_mem {p : List Char} (hp : sep ∉ p) : pieces sep p = [p] := by
  induction p with
  | nil => rfl
  | cons c p ih =>
    have hc := List.ne_of_not_mem_cons hp
    rw [pieces, if_neg hc.symm, ih (List.not_mem_of_not_mem_cons hp)]
    rfl

theorem not_mem_of_mem_pieces {s p : List Char} (h : p ∈ pieces sep s) : sep ∉ p := by
  induction s generalizing p with
  | nil =>
    cases List.mem_singleton.mp h
    exact List.not_mem_nil
  | cons c s ih =>
    rw [pieces] at h
    split at h
    · rcases List.mem_cons.mp h with rfl | h
      · exact List.not_mem_nil
      · exact ih h
    · rename_i hc
      cases hs : pieces sep s with
      | nil => exact absurd hs (pieces_ne_nil sep s)
      | cons q ps =>
        rw [hs] at h ih
        rcases List.mem_cons.mp h with rfl | h
        · exact List.not_mem_cons_of_ne_of_not_mem (Ne.symm hc) (ih List.mem_cons_self)
        · exact ih (List.mem_cons_of_mem q h)

theorem length_pieces (sep : Char) (s : List Char) : (pieces sep s).length = s.count sep + 1 := by
  induction s with
  | nil => rfl
  | cons c s ih =>
    rw [pieces, List.count_cons]
    by_cases hc : c = sep
    · rw [if_pos hc, List.length_cons, ih, if_pos (beq_iff_eq.mpr hc)]
    · rw [if_neg hc, List.length_modifyHead, ih, if_neg (mt beq_iff_eq.mp hc), Nat.add_zero]

theorem firstPiece_append {s : List Char} (hs : ∀ c ∈ s, c ≠ sep)
    (r : List Char) : firstPiece sep (s ++ r) = s ++ firstPiece sep r := by
  apply List.takeWhile_append_of_pos
  intro c hc
  exact bne_iff_ne.mpr (hs c hc)

/-- A text goes on after its first piece with a separator or not at all. -/
theorem exists_firstPiece (sep : Char) (s : List Char) :
    ∃ rest, s = firstPiece sep s ++ rest ∧ sep ∉ firstPiece sep s ∧ ∀ c ∈ rest.head?, c = sep := by
  refine ⟨s.dropWhile (· != sep), List.takeWhile_append_dropWhile.symm, ?_, ?_⟩
  · intro hmem
    simpa using List.mem_takeWhile_imp hmem
  · intro c hc
    have hstop := List.head?_dropWhile_not (· != sep) s
    rw [Option.mem_def.mp hc] at hstop
    simpa using hstop

/-- Joined pieces go on after the first one with a separator or not at all. -/
theorem exists_joinWith (sep : Char) (p : List Char) (ps : List (List Char)) :
    ∃ rest, joinWith sep (p :: ps) = p ++ rest ∧ ∀ c ∈ rest.head?, c = sep := by
  cases ps with
  | nil => exact ⟨[], (List.append_nil p).symm, nofun⟩
  | cons q qs => exact ⟨sep :: joinWith sep (q :: qs), rfl, fun c hc => (Option.some.inj hc).symm⟩

theorem mem_joinWith {c : Char} {ps : List (List Char)} (h : c ∈ joinWith sep ps) :
    c = sep ∨ ∃ p ∈ ps, c ∈ p := by
  induction ps with
  | nil => cases h
  | cons p ps ih =>
    cases ps with
    | nil => exact Or.inr ⟨p, List.mem_singleton_self p, h⟩
    | cons q qs =>
      rw [joinWith, List.mem_append, List.mem_cons] at h
      rcases h with hp | hsep | hrest
      · exact Or.inr ⟨p, List.mem_cons_self, hp⟩
      · exact Or.inl hsep
      · rcases ih hrest with hsep | ⟨r, hr, hc⟩
        · exact Or.inl hsep
        · exact Or.inr ⟨r, List.mem_cons_of_mem p hr, hc⟩

theorem joinWith_eq_intercalate (sep : Char) (ps : List (List Char)) :
    joinWith sep ps = [sep].intercalate ps := by
  induction ps with
  | nil => rfl
  | cons p ps ih =>
    cases ps with
    | nil => exact List.intercalate_singleton.symm
    | cons q qs =>
      rw [joinWith, ih, List.intercalate_cons_cons, List.append_assoc]
      rfl

/-- Pieces that are joined are found again. -/
theorem pieces_joinWith {ps : List (List Char)} (hne : ps ≠ []) (h : ∀ p ∈ ps, sep ∉ p) :
    pieces sep (joinWith sep ps) = ps := by
  induction ps with
  | nil => contradiction
  | cons p ps ih =>
    obtain ⟨hp, hps⟩ := List.forall_mem_cons.mp h
    cases ps with
    | nil => exact pieces_of_not_mem hp
    | cons q qs => rw [joinWith, pieces_append_cons hp, ih (List.cons_ne_nil q qs) hps]

/-- The first piece ends where the text does, or before a separator. -/
theorem exists_pieces_eq_cons_iff {s p : List Char} : (∃ ps, pieces sep s = p :: ps) ↔
    ∃ rest, s = p ++ rest ∧ sep ∉ p ∧ ∀ c ∈ rest.head?, c = sep := by
  constructor
  · rintro ⟨ps, h⟩
    obtain ⟨rest, hrest, hhead⟩ := exists_joinWith sep p ps
    refine ⟨rest, ?_, not_mem_of_mem_pieces (h ▸ List.mem_cons_self), hhead⟩
    rw [← hrest, ← h, joinWith_pieces]
  · rintro ⟨rest, rfl, hp, hhead⟩
    cases rest with
    | nil => exact ⟨[], by rw [List.append_nil, pieces_of_not_mem hp]⟩
    | cons c rest =>
      cases hhead c rfl
      exact ⟨_, pieces_append_cons hp rest⟩

/-- What follows the first separator has the other pieces. -/
theorem pieces_eq_cons_cons_iff {s p q : List Char} {ps : List (List Char)} :
    pieces sep s = p :: q :: ps ↔
      ∃ rest, s = p ++ sep :: rest ∧ sep ∉ p ∧ pieces sep rest = q :: ps := by
  constructor
  · intro h
    have hclean : ∀ r ∈ p :: q :: ps, sep ∉ r := fun r hr => not_mem_of_mem_pieces (h ▸ hr)
    obtain ⟨hp, hclean⟩ := List.forall_mem_cons.mp hclean
    refine ⟨joinWith sep (q :: ps), ?_, hp, pieces_joinWith (List.cons_ne_nil q ps) hclean⟩
    rw [← joinWith_pieces sep s, h]
    rfl
  · rintro ⟨rest, rfl, hp, hrest⟩
    rw [pieces_append_cons hp, hrest]

/-- What is taken from the end of a text stops at a separator. -/
theorem rtakeWhile_append_cons (s r : List Char) :
    (s ++ sep :: r).rtakeWhile (· ≠ sep) = r.rtakeWhile (· ≠ sep) := by
  have hreverse : (s ++ sep :: r).reverse = r.reverse ++ sep :: s.reverse := by simp
  have hstop : (sep :: s.reverse).takeWhile (· ≠ sep) = [] := List.takeWhile_cons_of_neg (by simp)
  rw [List.rtakeWhile, List.rtakeWhile, hreverse, List.takeWhile_append, hstop, List.append_nil]
  split
  · rename_i hall
    rw [(List.takeWhile_prefix _).eq_of_length hall]
  · rfl

theorem getLast?_eq_rtakeWhile {ps : List (List Char)} (hne : ps ≠ []) (h : ∀ p ∈ ps, sep ∉ p) :
    ps.getLast? = some ((joinWith sep ps).rtakeWhile (· ≠ sep)) := by
  induction ps with
  | nil => contradiction
  | cons p ps ih =>
    obtain ⟨hp, hps⟩ := List.forall_mem_cons.mp h
    cases ps with
    | nil =>
      have hself : p.rtakeWhile (· ≠ sep) = p := by
        apply List.rtakeWhile_eq_self_iff.mpr
        intro c hc
        exact decide_eq_true fun he => hp (he ▸ hc)
      rw [joinWith, hself]
      rfl
    | cons q qs =>
      rw [List.getLast?_cons_cons, ih (List.cons_ne_nil q qs) hps, joinWith, rtakeWhile_append_cons]

/-- The last piece is what follows the last separator. -/
theorem getLast?_pieces (sep : Char) (s : List Char) :
    (pieces sep s).getLast? = some (s.rtakeWhile (· ≠ sep)) := by
  have hclean : ∀ p ∈ pieces sep s, sep ∉ p := fun _ => not_mem_of_mem_pieces
  rw [getLast?_eq_rtakeWhile (pieces_ne_nil sep s) hclean, joinWith_pieces]

end AuditReport.Text
