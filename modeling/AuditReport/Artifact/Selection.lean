import AuditReport.Artifact.Model

/-!
# Choosing contracts

Contracts may be asked for by name; asking for none means all.
-/
namespace AuditReport

/-- The artifacts without those that repeat an earlier path and name. -/
def uniqueArtifacts : List Artifact → List Artifact :=
  go []
where
  go (seen : List (String × String)) : List Artifact → List Artifact
    | [] => []
    | a :: as =>
      if (a.sourcePath, a.name) ∈ seen then go seen as
      else a :: go ((a.sourcePath, a.name) :: seen) as

def foundNames (artifacts : List Artifact) (requested : List String) : List String :=
  (artifacts.map Artifact.name).filter fun n => requested.isEmpty || requested.contains n

def missingNames (requested present : List String) : List String :=
  requested.filter fun n => !present.contains n

end AuditReport
