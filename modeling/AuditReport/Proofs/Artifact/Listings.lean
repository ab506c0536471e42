import AuditReport.Artifact.Build
import AuditReport.Proofs.Noted

/-!
# What a build record lists

A build record lists the records of its contracts, or is itself the record of one. The artifacts are
made of them one by one, up to the first that is invalid or is nothing that a record can be made of.
-/
namespace AuditReport

namespace Build

inductive Listing where
  | record (fs : Json.Fields)
  /-- Nothing that a record can be made of. -/
  | strange (d : Defect)

namespace Listing

def artifact : Listing → Except Fault Artifact
  | record fs => Build.artifact fs
  | strange d => .error (.defect d)

def ofItem (path : String) (entry : Json.Fields) (compiler : Json) (shared : Json.Fields) :
    Json → Listing
  | .obj contract => record (contractRecord contract path entry compiler shared)
  | _ => strange .notMapping

end Listing

def listingsUnder (compiler : Json) (shared : Json.Fields) : String × Json → List Listing
  | (path, .obj entry) =>
    match listed (Json.valueOf entry "contracts") with
    | .ok items => items.map (Listing.ofItem path entry compiler shared)
    | .error _ => [.strange .notIterable]
  | _ => []

def listings (fs : Json.Fields) : List Listing :=
  if listsContracts fs then
    let sources := entriesOrNone (Json.valueOf fs "sources")
    let shared := sources.map fun e => (e.1, sourceRecord e.2)
    sources.flatMap (listingsUnder (Json.valueOf fs "compiler") shared)
  else if canBeKey (textOf fs "sourcePath") then [.record fs]
  else [.strange .unhashableKey]

theorem artifactsOf_eq (path : String) (entry : Json.Fields) (compiler : Json) (shared : Json.Fields)
    (items : List Json) : artifactsOf path entry compiler shared items =
      (items.map (Listing.ofItem path entry compiler shared)).mapM Listing.artifact := by
  induction items with
  | nil => rfl
  | cons v items ih =>
    rw [List.map_cons, List.mapM_cons, ← ih]
    cases v <;> rfl

theorem listed_eq_error {v : Json} {e : Fault} (h : listed v = .error e) :
    e = .defect .notIterable := by
  unfold listed at h
  split at h
  · cases h
  · cases h
  · cases h
  · split_ifs at h
    cases h
    rfl

theorem artifactsOfSources_eq (compiler : Json) (shared sources : Json.Fields) :
    artifactsOfSources compiler shared sources =
      (sources.flatMap (listingsUnder compiler shared)).mapM Listing.artifact := by
  induction sources with
  | nil => rfl
  | cons s sources ih =>
    rw [List.flatMap_cons, List.mapM_append, ← ih]
    obtain ⟨path, v⟩ := s
    cases v with
    | obj entry =>
      simp only [artifactsOfSources, listingsUnder]
      cases hlisted : listed (Json.valueOf entry "contracts") with
      | error e =>
        rw [listed_eq_error hlisted]
        rfl
      | ok items =>
        simp only [← artifactsOf_eq]
        rfl
    | _ =>
      simp only [artifactsOfSources, listingsUnder]
      cases artifactsOfSources compiler shared sources <;> rfl

theorem exists_sources {fs : Json.Fields} (h : listsContracts fs = true) :
    ∃ s sources, Json.valueOf fs "sources" = .obj (s :: sources) := by
  unfold listsContracts at h
  split at h
  · rename_i sources hsources
    cases sources with
    | nil => cases h
    | cons s sources => exact ⟨s, sources, hsources⟩
  · cases h

/-- The artifacts of a build are those of what it lists, in order. -/
theorem artifacts_eq (fs : Json.Fields) : artifacts fs = (listings fs).mapM Listing.artifact := by
  unfold artifacts listings
  split_ifs with hlists hkey
  · obtain ⟨s, sources, hsources⟩ := exists_sources hlists
    rw [split, hsources, ← artifactsOfSources_eq]
    rfl
  · rw [List.mapM_cons, List.mapM_nil, Listing.artifact]
    cases artifact fs <;> rfl
  · rw [List.mapM_cons, artifact, if_neg hkey]
    rfl

/-- The path of a contract that is listed under a source is a text. -/
theorem canBeKey_contractRecord (contract : Json.Fields) (path : String) (entry : Json.Fields)
    (compiler : Json) (shared : Json.Fields) :
    canBeKey (textOf (contractRecord contract path entry compiler shared) "sourcePath") = true := by
  have hpath : Table.get? (contractRecord contract path entry compiler shared) "sourcePath" =
      some (.str path) := by
    simp [contractRecord, Table.putAll, Table.get?_put_of_ne, Table.get?_put_self]
  rw [textOf, Json.valueOf, hpath]
  unfold Json.orElse
  split_ifs <;> rfl

theorem canBeKey_of_record {fs record : Json.Fields} (h : Listing.record record ∈ listings fs) :
    canBeKey (textOf record "sourcePath") = true := by
  unfold listings at h
  split_ifs at h with hlists hkey
  · obtain ⟨⟨path, v⟩, _, h⟩ := List.mem_flatMap.mp h
    cases v with
    | obj entry =>
      simp only [listingsUnder] at h
      split at h
      · obtain ⟨item, _, hitem⟩ := List.mem_map.mp h
        cases item with
        | obj contract =>
          cases hitem
          exact canBeKey_contractRecord _ _ _ _ _
        | _ => cases hitem
      · cases List.mem_singleton.mp h
    | _ => cases h
  · cases List.mem_singleton.mp h
    exact hkey
  · cases List.mem_singleton.mp h

theorem artifact_ne_defect {fs : Json.Fields} (h : canBeKey (textOf fs "sourcePath") = true)
    (d : Defect) : artifact fs ≠ .error (.defect d) := by
  rw [artifact, if_pos h]
  dsimp only
  intro hd
  cases hfields : Artifact.ofFieldsWith
      (artifactRecord fs (sourcesFor fs (textOf fs "sourcePath")).2 (textOf fs "sourcePath"))
      (sourcesFor fs (textOf fs "sourcePath")).1 with
  | ok a =>
    rw [hfields] at hd
    cases hd
  | bad cs =>
    rw [hfields] at hd
    cases hd

/-- All that the making of artifacts comes to is the records of contracts. -/
def ListsRecords (fs : Json.Fields) : Prop :=
  ∀ l, Reached Listing.artifact (listings fs) l → ∃ record, l = .record record

/-- A build has a defect exactly if the making of artifacts comes to something that no record can be
made of. -/
theorem hasDefect_artifacts_iff {fs : Json.Fields} :
    HasDefect (artifacts fs) ↔ ¬ ListsRecords fs := by
  rw [artifacts_eq]
  constructor
  · rintro ⟨d, hd⟩ hrecords
    obtain ⟨l, hreached, hl⟩ := mapM_eq_error_iff.mp hd
    obtain ⟨record, rfl⟩ := hrecords l hreached
    exact artifact_ne_defect (canBeKey_of_record hreached.mem) d hl
  · intro h
    simp only [ListsRecords, not_forall] at h
    obtain ⟨l, hreached, hl⟩ := h
    cases l with
    | record record => exact absurd ⟨record, rfl⟩ hl
    | strange d => exact ⟨d, mapM_eq_error_iff.mpr ⟨_, hreached, rfl⟩⟩

end Build
end AuditReport
