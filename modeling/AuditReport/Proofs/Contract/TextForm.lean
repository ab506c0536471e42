import AuditReport.Proofs.Contract.OwnTree
import AuditReport.Proofs.Contract.Positions
import AuditReport.Proofs.SourceMap.EntryText

/-!
# Bytecode locations in text form

A bytecode location takes its range from the source map, and the source that its entry names goes before
the one that the finding is attributed to; a text location gives its range itself, and the attributed
source goes first. With the numbers of the entry written out, and attributed to the source of the entry
or to none, a text location has the same span and is ignored just when the bytecode location is.
-/
namespace AuditReport

open SourceMap (Format)

/-- A text location is read back as the entry that it was written from, but for the jump. -/
theorem Resolver.outcome_entryIn_locationText {r : Resolver} {e : SourceMap.Entry} (h : e.Bounded) :
    (r.entryIn e.locationText .text).outcome = .ok (some { e with jump := .regular }) := by
  rw [entryIn, SourceMap.firstSegment_locationText, SourceMap.read_locationText h]
  rfl

namespace ContractView

structure Query where
  location : String
  format : Option String
  name : Option String

/-- Two locations are resolved to one span, and the test whether they can be ignored comes to the same
for both. -/
structure Agree (v : ContractView) (q p : Query) : Prop where
  span : ∃ s, (v.resolver.resolve q.location q.format q.name).outcome = .ok s ∧
    (v.resolver.resolve p.location p.format p.name).outcome = .ok s
  ignorable : (v.isIgnorableAt q.location q.format q.name).outcome =
    (v.isIgnorableAt p.location p.format p.name).outcome

section TextForm

variable {a : Artifact} {v : ContractView} {location : String} {format : Option String}
  {e : SourceMap.Entry} {path : String}

theorem bounded_of_entryIn (hv : ofArtifact a = .ok v)
    (he : (v.resolver.entryIn location .bytecode).outcome = .ok (some e)) : e.Bounded := by
  obtain ⟨instructions, entries, _, hentries, rfl⟩ := ofArtifact_eq_ok_iff.mp hv
  exact SourceMap.decode_bounded hentries e (Resolver.mem_entries_of_entryIn he)

/-- The source of an entry is the one to look in, whether it is attributed or left to the entry. -/
theorem orElse_sourceName? (hpath : v.resolver.sourceName? e = some path) (hne : path ≠ "")
    {attributed : Option String} (hattributed : attributed = none ∨ attributed = some path) :
    Text.orElse attributed (v.resolver.sourceName? e) = some path := by
  rcases hattributed with rfl | rfl
  · exact hpath
  · exact Text.orElse_some_of_ne_empty hne _

/-- The text form of a bytecode location agrees with it, whatever source the latter is attributed to. -/
theorem agree_locationText (hpaths : ∀ s ∈ a.sources, s.1 ≠ "") (hv : ofArtifact a = .ok v)
    (hformat : format.bind Format.ofName? = some .bytecode)
    (he : (v.resolver.entry location format).outcome = .ok (some e))
    (hpath : v.resolver.sourceName? e = some path) (name : Option String) {attributed : Option String}
    (hattributed : attributed = none ∨ attributed = some path) :
    v.Agree ⟨e.locationText, some Format.text.name, attributed⟩ ⟨location, format, name⟩ := by
  let d : SourceMap.Entry := { e with jump := .regular }
  have hmem := mem_sources_of_sourceName? hv hpath
  have hne : ∀ p ∈ a.sources.map (·.1), p ≠ "" := List.forall_mem_map.mpr hpaths
  have hin : (v.resolver.entryIn location .bytecode).outcome = .ok (some e) := by
    rw [← Resolver.entry_of_format hformat]
    exact he
  have hd : (v.resolver.entryIn e.locationText .text).outcome = .ok (some d) :=
    Resolver.outcome_entryIn_locationText (bounded_of_entryIn hv hin)
  have hchosen : Text.orElse attributed (v.resolver.sourceName? d) = some path :=
    orElse_sourceName? hpath (hne path hmem) hattributed
  constructor
  · obtain ⟨s, _, ht⟩ := exists_outcome_lineTable hv hmem
    have htext : (v.resolver.entry e.locationText (some Format.text.name)).outcome = .ok (some d) := hd
    refine ⟨(LineTable.ofText (a.textOf path s)).span e.start e.length, ?_, ?_⟩
    · apply Resolver.resolve_ofText htext
      rw [Resolver.target_text rfl, hchosen]
      exact ht
    · apply Resolver.resolve_ofText he
      rw [Resolver.target_of_sourceName? hformat hpath (hne path hmem)]
      exact ht
  · -- The answer depends on the range alone, which both entries share.
    calc (v.isIgnorableAt e.locationText (some Format.text.name) attributed).outcome
      _ = Syntax.answer v.trees d path := outcome_isIgnorableAt rfl hd hchosen
      _ = Syntax.answer v.trees e path := rfl
      _ = (v.isIgnorableAt location format name).outcome :=
        (outcome_isIgnorableAt hformat hin hpath).symm

end TextForm

/-- The source of the second instruction is named by its entry alone, though the finding is attributed to
the other source. -/
theorem namesakes_agree_locationText :
    namesakesView.Agree ⟨SourceMap.Entry.locationText ⟨0, 20, 1, .regular⟩, some Format.text.name, none⟩
      ⟨"1", some Format.bytecode.name, some "a/T.sol"⟩ := by
  have he : (namesakesView.resolver.entry "1" (some Format.bytecode.name)).outcome =
      .ok (some ⟨0, 20, 1, .regular⟩) := rfl
  exact agree_locationText (by decide) ofArtifact_namesakes rfl he sourceName?_namesakes_one
    (some "a/T.sol") (Or.inl rfl)

end ContractView
end AuditReport
