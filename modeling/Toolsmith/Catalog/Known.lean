import Toolsmith.Service

/-!
# Known services

The services that are indexed when the directory page yields none.
-/

namespace Toolsmith.Catalog

/-- Names and versions of services in production. -/
def knownNames : List (String × String) := [
  ("absenceManagement", "v4"), ("accountsPayable", "v1"), ("asor", "v1"), ("attachments", "v1"),
  ("benefitEnrollmentEventOfferings", "v1"), ("benefitPartner", "v1"), ("budgets", "v1"),
  ("businessProcess", "v1"), ("common", "v1"), ("compensation", "v2"), ("connect", "v2"),
  ("contractCompliance", "v1"), ("coreAccounting", "v1"), ("customObjectData", "v2"),
  ("customObjectDefinition", "v1"), ("customerAccounts", "v1"), ("expense", "v1"),
  ("finTaxPublic", "v1"), ("globalPayroll", "v1"), ("graph", "v1"), ("helpArticle", "v1"),
  ("helpCase", "v4"), ("holiday", "v1"), ("journeys", "v1"), ("learning", "v1"),
  ("oauthClient", "v1"), ("payroll", "v2"), ("performanceEnablement", "v5"), ("person", "v4"),
  ("prismAnalytics", "v3"), ("privacy", "v1"), ("procurement", "v5"), ("projects", "v1"),
  ("recruiting", "v4"), ("request", "v2"), ("revenue", "v1"), ("staffing", "v7"),
  ("studentAcademicFoundation", "v1"), ("studentCore", "v1"), ("studentCurriculum", "v1"),
  ("studentEngagement", "v1"), ("studentFinance", "v1"), ("studentRecruiting", "v1"),
  ("systemMetrics", "v1"), ("talentManagement", "v2"), ("timeTracking", "v5"), ("worktag", "v1"),
  ("wql", "v1")]

/-- The services that are known without asking (`known_services`). -/
def known : List Service :=
  knownNames.map fun (name, version) =>
    Service.ofNameAndVersion (Text.ofString name) (Text.ofString version)

end Toolsmith.Catalog
