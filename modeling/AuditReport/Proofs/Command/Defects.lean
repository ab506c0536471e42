import AuditReport.Proofs.Artifact.Listings
import AuditReport.Proofs.Command.ExitStatus
import AuditReport.Proofs.Config.Merge

/-!
# Parts of a run that can be cut off

Reading a document, looking up the entries of a build record and showing a title can fail in ways that
nothing foresees. Decoding results, pairing them with artifacts and the options of the command line
cannot.
-/
namespace AuditReport

def Holds (maxDepth : Nat) (bytes : ByteArray) (v : Json) : Prop :=
  ∃ s, String.fromUTF8? bytes = some s ∧ Json.read maxDepth s = .ok v

/-- The bytes are UTF-8 and keep to the limits of the reader. -/
def Readable (maxDepth : Nat) (bytes : ByteArray) : Prop :=
  ∃ s, String.fromUTF8? bytes = some s ∧ ∀ flaw, Json.read maxDepth s = .error flaw → flaw = .malformed

/-- No text of the document has half of a surrogate pair. -/
def Whole (maxDepth : Nat) (bytes : ByteArray) : Prop :=
  ∀ s v, String.fromUTF8? bytes = some s → Json.read maxDepth s = .ok v → Json.isWhole s = true

/-- A byte that no text has in UTF-8. -/
def strayByte : ByteArray :=
  ⟨#[0xFF]⟩

theorem fromUTF8?_strayByte : String.fromUTF8? strayByte = none := by
  decide +kernel

namespace Disk

variable {maxDepth : Nat} {d : Disk} {path : String} {bytes : ByteArray}

theorem readJson_eq (h : d.read path = .ok bytes) :
    d.readJson maxDepth path = match String.fromUTF8? bytes with
      | none => .error (.defect .notUtf8)
      | some s => parse maxDepth (.command (.notJson (usualPath path))) s := by
  cases hs : String.fromUTF8? bytes with
  | none => simp only [readJson, h, hs]
  | some s => simp only [readJson, h, hs]

theorem readJson_eq_ok_iff (h : d.read path = .ok bytes) (hwhole : Whole maxDepth bytes) {v : Json} :
    d.readJson maxDepth path = .ok v ↔ Holds maxDepth bytes v := by
  rw [readJson_eq h, Holds]
  cases hs : String.fromUTF8? bytes with
  | none => simp
  | some s =>
    simp only [Option.some.injEq, exists_eq_left', parse]
    cases hread : Json.read maxDepth s with
    | ok w => simp [hwhole s w hs hread]
    | error flaw => cases flaw <;> simp

theorem hasDefect_readJson_iff (h : d.read path = .ok bytes) (hwhole : Whole maxDepth bytes) :
    HasDefect (d.readJson maxDepth path) ↔ ¬ Readable maxDepth bytes := by
  rw [readJson_eq h, Readable]
  cases hs : String.fromUTF8? bytes with
  | none => simp [HasDefect]
  | some s =>
    simp only [Option.some.injEq, exists_eq_left', parse]
    cases hread : Json.read maxDepth s with
    | ok w => simp [HasDefect, hwhole s w hs hread]
    | error flaw => cases flaw <;> simp [HasDefect]

end Disk

namespace Build

theorem entries_eq_ok_iff {v : Json} {fs : Json.Fields} : entries v = .ok fs ↔ v = .obj fs := by
  cases v <;> simp [entries]

theorem hasDefect_entries_iff {v : Json} : HasDefect (entries v) ↔ ¬ ∃ fs, v = .obj fs := by
  cases v <;> simp [HasDefect, entries]

end Build

namespace ResultSet

theorem not_hasDefect_decode (v : Json) : ¬ HasDefect (decode v) := by
  have hchecked : ∀ x, ¬ HasDefect (decode.checked x) := by
    intro x
    cases x <;> simp [HasDefect, decode.checked]
  cases v with
  | arr items => exact hchecked _
  | obj fs =>
    simp only [decode]
    split_ifs
    · exact hchecked _
    · exact hchecked _
  | _ => simp [HasDefect, decode]

theorem not_hasDefect_jobs (artifacts : List Artifact) (rs : ResultSet) :
    ¬ HasDefect (rs.jobs artifacts) := by
  cases rs with
  | named table => exact not_hasDefect_ok _
  | unnamed results =>
    match artifacts with
    | [a] => exact not_hasDefect_ok _
    | [] | _ :: _ :: _ => simp [HasDefect, jobs]

end ResultSet

namespace Command

theorem shownTexts_eq_none_iff {texts : List (Except MarkupFlaw String)} :
    (shownTexts texts).2 = none ↔ ∀ t ∈ texts, ∃ s, t = .ok s := by
  induction texts with
  | nil => simp [shownTexts]
  | cons t texts ih => cases t <;> simp [shownTexts, ih]

namespace Options

/-- Options that are given on the command line alone are never at fault. -/
theorem exists_config (o : Options) :
    ∃ config, ReportConfig.build o.reportOptions [] = .ok config := by
  have hkeys : o.reportOptions.keys.Nodup := by
    change ["min-severity", "swc-blacklist", "style", "debug"].Nodup
    decide
  have hvalue : Json.valueOf (ReportConfig.merge o.reportOptions []) =
      Json.valueOf o.reportOptions := by
    rw [ReportConfig.valueOf_merge hkeys, ReportConfig.chosen_nil_right]
  have hseverity : ∃ l, ReportConfig.threshold (Json.ofText? o.minSeverity) = .ok l := by
    cases o.minSeverity with
    | none => exact ⟨_, rfl⟩
    | some s => exact ⟨_, rfl⟩
  have hdebug : ∃ n, ReportConfig.wholeNumber
      ((if o.debug then Json.int 1 else .null).orElse (.int 0)) = .ok n := by
    cases o.debug with
    | false => exact ⟨0, rfl⟩
    | true => exact ⟨1, rfl⟩
  have hstyle : ∃ s, ReportConfig.styleName (Json.ofText? o.style) = .ok s := by
    cases o.style with
    | none => exact ⟨_, rfl⟩
    | some s =>
      unfold ReportConfig.styleName Json.orElse
      split_ifs
      · exact ⟨s, rfl⟩
      · exact ⟨_, rfl⟩
  obtain ⟨l, hl⟩ := hseverity
  obtain ⟨n, hn⟩ := hdebug
  obtain ⟨s, hs⟩ := hstyle
  refine ⟨⟨s, n, ⟨some l, RuleId.listOfJson (.ofText? o.swcBlacklist)⟩⟩, ?_⟩
  simp only [ReportConfig.build, hvalue]
  change ReportConfig.threshold (Json.ofText? o.minSeverity) >>= _ = _
  rw [hl]
  change ReportConfig.wholeNumber ((if o.debug then Json.int 1 else .null).orElse (.int 0)) >>= _ = _
  rw [hn]
  change ReportConfig.styleName (Json.ofText? o.style) >>= _ = _
  rw [hs]
  rfl

theorem exists_logText_iff {o : Options} {screen : Console.Screen} {c : ContractReport} :
    (∃ text, o.logText screen c = .ok text) ↔
    ((∃ l ∈ c.logs, l.level ≠ "info" ∨ o.debug = true) → ∃ title, Console.sectionTitle screen
      ("Analysis logs: " ++ Text.orDefault (some c.sourcePath) c.name) o.color = .ok title) := by
  have hvisible : (∃ l ∈ c.logs, l.level ≠ "info" ∨ o.debug = true) ↔
      visibleLogs o.debug c.logs ≠ [] := by
    rw [Ne, visibleLogs_eq_nil_iff]
    simp only [not_forall, not_and_or, Bool.not_eq_false]
    exact ⟨fun ⟨l, hl, h⟩ => ⟨l, hl, h⟩, fun ⟨l, hl, h⟩ => ⟨l, hl, h⟩⟩
  rw [hvisible, logText]
  cases hlogs : visibleLogs o.debug c.logs with
  | nil => simp
  | cons l ls =>
    cases Console.sectionTitle screen
        ("Analysis logs: " ++ Text.orDefault (some c.sourcePath) c.name) o.color with
    | error flaw => simp [bind, Except.bind]
    | ok title => simp [bind, Except.bind, pure, Except.pure]

/-- All messages on a batch can be shown if the titles over the log lines can. -/
theorem shownTexts_problemTexts {o : Options} {screen : Console.Screen} {config : ReportConfig}
    {jobs : List Job} {wanted : List String} : (shownTexts (o.problemTexts screen
        ⟨jobs.filterMap (·.report? config), jobs.filterMap (·.failure? config)⟩ wanted)).2 = none ↔
      ∀ j ∈ jobs, (∃ c, j.outcome config = .ok c) →
        (∃ result ∈ j.results, ∃ l ∈ result.info.logs, l.level ≠ "info" ∨ o.debug = true) →
        ∃ title, Console.sectionTitle screen ("Analysis logs: " ++
          Text.orDefault (some j.artifact.sourcePath) j.artifact.name) o.color = .ok title := by
  have hcontracts : ∀ (b : Batch), (shownTexts (o.problemTexts screen b wanted)).2 = none ↔
      ∀ c ∈ b.contracts, ∃ text, o.logText screen c = .ok text := by
    intro b
    rw [shownTexts_eq_none_iff]
    simp [problemTexts, or_imp, forall_and]
  rw [hcontracts]
  simp only [List.mem_filterMap, Job.report?_eq_some_iff, exists_logText_iff]
  constructor
  · rintro h j hj ⟨c, hc⟩ ⟨result, hresult, l, hl, hlevel⟩
    obtain ⟨hname, hpath, hlogs⟩ := Job.head_of_outcome hc
    rw [← hname, ← hpath]
    apply h c ⟨j, hj, hc⟩
    rw [hlogs]
    exact ⟨l, List.mem_flatMap.mpr ⟨result, hresult, hl⟩, hlevel⟩
  · rintro h c ⟨j, hj, hc⟩ ⟨l, hl, hlevel⟩
    obtain ⟨hname, hpath, hlogs⟩ := Job.head_of_outcome hc
    rw [hlogs] at hl
    obtain ⟨result, hresult, hl⟩ := List.mem_flatMap.mp hl
    rw [hname, hpath]
    exact h j hj ⟨c, hc⟩ ⟨result, hresult, l, hl, hlevel⟩

end Options

theorem Ending.ofFault_eq_two_iff {e : Fault} :
    Ending.ofFault e = .status 2 ↔ ¬ ∃ d, e = .defect d := by
  cases e <;> simp [Ending.ofFault]

end Command
end AuditReport
