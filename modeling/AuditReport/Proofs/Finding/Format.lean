import AuditReport.Proofs.Finding.Placement

/-!
# The format under which a location is read

A location without a format of its own is read under the format of its group, which is the one with
which the source of the group is first named. That is the format of the result unless a location that
has a format of its own names the source first. So the format of the result reaches every location
that needs it exactly if no location without a format is at home in a source first named under another
one, and a result of two findings is enough to miss it.
-/
namespace AuditReport

namespace AnalysisResult

/-- Every location in the groups is read under its own format, else under that of the result. -/
def KeepsFormats (r : AnalysisResult) (groups : List FindingGroup) : Prop :=
  ∀ g ∈ groups, ∀ f ∈ g.findings, ∀ l ∈ f.locations,
    Text.orElse l.format g.format = Text.orElse l.format r.format

/-- Every location without a format is at home in a source that is first named under the format of
the result. -/
def NamesUnderOwnFormat (r : AnalysisResult) : Prop :=
  ∀ f ∈ r.findings, ∀ l ∈ f.locations, Text.orElse l.format none = none →
    ∀ s, r.home (some l) = .ok s → (firstNaming r.introduced s).format = r.format

/-- A format that is given goes before any other; one that is not leaves the choice. -/
theorem orElse_eq_orElse_iff {own a b : Option String} :
    Text.orElse own a = Text.orElse own b ↔ (Text.orElse own none = none → a = b) := by
  unfold Text.orElse
  cases own with
  | none => simp
  | some s => by_cases hs : s = "" <;> simp [hs]

/-- A location in a group is one of the findings of the result, at home in the group. -/
theorem mem_locations_group {r : AnalysisResult} {groups : List FindingGroup}
    (h : r.group.outcome = .ok groups) {l : Location} {s : String} :
    (∃ g ∈ groups, g.source = s ∧ ∃ c ∈ g.findings, l ∈ c.locations) ↔
      (∃ f ∈ r.findings, l ∈ f.locations) ∧ r.home (some l) = .ok s := by
  constructor
  · rintro ⟨g, hg, rfl, c, hc, hl⟩
    obtain ⟨⟨f, place⟩, hp, rfl, hhome⟩ := (mem_findings_group h hg).mp hc
    obtain rfl : place = some l := Option.mem_toList.mp hl
    exact ⟨⟨f, Finding.some_mem_occurrences_iff.mp hp⟩, hhome⟩
  · rintro ⟨⟨f, hf, hl⟩, hhome⟩
    have hp := Finding.some_mem_occurrences_iff.mpr ⟨hf, hl⟩
    obtain ⟨g, hg, hg'⟩ := exists_home h hp
    exact ⟨g, hg, Except.ok.inj (hg'.symm.trans hhome), _,
      (mem_findings_group h hg).mpr ⟨_, hp, rfl, hg'⟩, Option.mem_toList.mpr rfl⟩

theorem keepsFormats_iff {r : AnalysisResult} {groups : List FindingGroup}
    (h : r.group.outcome = .ok groups) : r.KeepsFormats groups ↔ r.NamesUnderOwnFormat := by
  constructor
  · intro hkeep f hf l hl hown s hs
    obtain ⟨g, hg, rfl, c, hc, hlc⟩ := (mem_locations_group h).mpr ⟨⟨f, hf, hl⟩, hs⟩
    rw [← format_of_mem_group h hg]
    exact orElse_eq_orElse_iff.mp (hkeep g hg c hc l hlc) hown
  · intro hnames g hg c hc l hl
    obtain ⟨⟨f, hf, hlf⟩, hhome⟩ := (mem_locations_group h).mp ⟨g, hg, rfl, c, hc, hl⟩
    apply orElse_eq_orElse_iff.mpr
    intro hown
    rw [format_of_mem_group h hg]
    exact hnames f hf l hlf hown _ hhome

end AnalysisResult

/-- Two findings in one source, named first by the location that has a format of its own. -/
def textThenPlain : AnalysisResult where
  kind := none
  format := some "evm-byzantium-bytecode"
  sources := []
  findings := [
    ⟨some "101", none, ⟨"given", ""⟩, some "High", [⟨"0:1:0", some "text", none, ["a.sol"]⟩], []⟩,
    ⟨some "102", none, ⟨"plain", ""⟩, some "High", [⟨"0:1:0", none, none, ["a.sol"]⟩], []⟩]
  info := .empty
  source := none

theorem not_forall_keepsFormats :
    ¬ ∀ r groups, r.group.outcome = .ok groups → AnalysisResult.KeepsFormats r groups := by
  intro hall
  have h := hall textThenPlain _ rfl _ List.mem_cons_self
    _ (List.mem_cons_of_mem _ List.mem_cons_self) _ List.mem_cons_self
  exact absurd h (by decide)

theorem textThenPlain_keepsFormats_iff : ∃ groups, textThenPlain.group.outcome = .ok groups ∧
    (textThenPlain.KeepsFormats groups ↔ textThenPlain.NamesUnderOwnFormat) :=
  ⟨_, rfl, AnalysisResult.keepsFormats_iff rfl⟩

end AuditReport
