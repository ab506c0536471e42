import AuditReport.Proofs.Contract.Batches
import AuditReport.Proofs.Contract.WellFormed
import Mathlib.Data.Nat.Digits.Defs

/-!
# Numbers in reports

A number in a report counts records, tells a place in a source or is a level. So it is about as large as the
reports and the sources are, and short where these are not immense.
-/
namespace AuditReport

namespace Record

def numbers (m : Record) : List Int :=
  [m.severity, m.line, m.column] ++ m.endLine.toList ++ m.endColumn.toList

/-- A record without a place has a number of two for an error, if no larger one. -/
theorem WellFormed.natAbs_le {a : Artifact} {m : Record} (h : m.WellFormed a) {k : Nat}
    (hsize : ∀ s ∈ a.sources, (a.textOf s.1 s.2).utf8ByteSize ≤ k) :
    ∀ n ∈ m.numbers, n.natAbs ≤ k + 2 := by
  have hplace : ∀ {text : String} {o : Int} {p : LineColumn}, HasPlace text o p →
      text.utf8ByteSize ≤ k → p.line.natAbs ≤ k + 2 ∧ p.column.natAbs ≤ k + 2 := by
    intro text o p hp hk
    have hline := hp.one_le_line
    have hcolumn := hp.column_nonneg
    have hline_le := hp.line_le
    have hcolumn_le := hp.column_le
    omega
  have hseverity : m.severity.natAbs ≤ k + 2 := by
    rcases h.severity with hs | hs
    · omega
    · omega
  simp only [numbers, List.forall_mem_append, List.forall_mem_cons]
  rcases h.position with hnone | ⟨s, hs, hwithin⟩
  · rw [hnone.line, hnone.column, hnone.endLine, hnone.endColumn]
    have hline : Int.natAbs (-1) ≤ k + 2 := by omega
    exact ⟨⟨⟨hseverity, hline, Nat.zero_le _, List.forall_mem_nil _⟩, List.forall_mem_nil _⟩,
      List.forall_mem_nil _⟩
  · obtain ⟨o, hstart⟩ := hwithin.start
    obtain ⟨hline, hcolumn⟩ := hplace hstart (hsize s hs)
    rcases hwithin.stop with ⟨hnoLine, hnoColumn⟩ | ⟨q, hq, hq', _, _, hstop⟩
    · rw [hnoLine, hnoColumn]
      exact ⟨⟨⟨hseverity, hline, hcolumn, List.forall_mem_nil _⟩, List.forall_mem_nil _⟩,
        List.forall_mem_nil _⟩
    · obtain ⟨hendLine, hendColumn⟩ := hplace hstop (hsize s hs)
      rw [hq, hq']
      exact ⟨⟨⟨hseverity, hline, hcolumn, List.forall_mem_nil _⟩,
        List.forall_mem_singleton.mpr hendLine⟩, List.forall_mem_singleton.mpr hendColumn⟩

end Record

namespace FileReport

def numbers (r : FileReport) : List Int :=
  [r.errors, r.warnings, r.fixableErrors, r.fixableWarnings] ++ r.records.flatMap Record.numbers

def Bounded (r : FileReport) : Prop :=
  ∀ n ∈ r.numbers, (Nat.toDigits 10 n.natAbs).length ≤ Text.Numeral.maxDigits

instance (r : FileReport) : Decidable r.Bounded :=
  List.decidableBAll _ _

end FileReport

variable {artifacts : List Artifact} {contracts : List ContractReport}

/-- The counts are bounded by the records, and all other numbers by the sources. -/
theorem natAbs_le_of_mem_combined (hon : ∀ c ∈ contracts, ∃ a ∈ artifacts, ContractReport.IsOn a c)
    {k : Nat} (hsize : ∀ a ∈ artifacts, ∀ s ∈ a.sources, (a.textOf s.1 s.2).utf8ByteSize ≤ k)
    {r : FileReport} (hr : r ∈ combinedReports contracts) (hcount : r.records.length ≤ k) :
    ∀ n ∈ r.numbers, n.natAbs ≤ k + 2 := by
  have hgiven : ∀ s ∈ contracts.flatMap (·.reports), ∃ a ∈ artifacts, ∃ c,
      ContractReport.IsOn a c ∧ s ∈ c.reports := by
    intro s hs
    obtain ⟨c, hc, hs⟩ := List.mem_flatMap.mp hs
    obtain ⟨a, ha, hac⟩ := hon c hc
    exact ⟨a, ha, c, hac, hs⟩
  have hunfixable : ∀ s ∈ contracts.flatMap (·.reports), s.Unfixable := by
    intro s hs
    obtain ⟨_, _, _, ⟨_, _, hc⟩, hs⟩ := hgiven s hs
    exact ContractReport.unfixable hc s hs
  have hcanonical := (combinedReports_canonicalForm contracts).canonical r hr
  have hfixableErrors : r.fixableErrors = 0 := hcanonical.fixableErrors.trans
    (FileReport.countOn_eq_zero (fun s hs => (hunfixable s hs).1) r.path)
  have hfixableWarnings : r.fixableWarnings = 0 := hcanonical.fixableWarnings.trans
    (FileReport.countOn_eq_zero (fun s hs => (hunfixable s hs).2) r.path)
  have herrors := hcanonical.errors
  have hcounted := hcanonical.counted
  have hle : r.records.countP (fun m => m.fatal || m.severity == 2) ≤ r.records.length :=
    List.countP_le_length
  simp only [FileReport.numbers, List.forall_mem_append, List.forall_mem_cons]
  refine ⟨⟨by omega, by omega, by omega, by omega, List.forall_mem_nil _⟩, ?_⟩
  intro n hn
  obtain ⟨m, hm, hn⟩ := List.mem_flatMap.mp hn
  obtain ⟨s, hs, _, hm⟩ := (hcanonical.mem_records m).mp hm
  obtain ⟨a, ha, c, hac, hs⟩ := hgiven s hs
  exact (hac.wellFormed hs hm).natAbs_le (hsize a ha) n hn

end AuditReport
