import ManifestSarif.KeyMap
import ManifestSarif.Severity

/-!
# Analysis reports

What an analysis service reports about the dependencies of one manifest: per provider, and per
source of vulnerability data of the provider, the counts of issues and the dependencies with their
issues.  Nearly every part may be absent.
-/

namespace ManifestSarif

/-- The package that a provider trusts as a replacement. -/
structure TrustedContent where
  ref : String
deriving DecidableEq, Repr

/-- What a provider offers against an issue. -/
structure Remediation where
  trustedContent : Option TrustedContent
deriving DecidableEq, Repr

/-- The scoring of an issue. -/
structure Cvss where
  score : Option String
deriving DecidableEq, Repr

/-- One vulnerability reported against a dependency. -/
structure Issue where
  id : String
  title : String
  severity : String
  cves : Option (List String)
  cvss : Option Cvss
  remediation : Option Remediation
deriving DecidableEq, Repr

namespace Issue

/-- The public identifiers of the vulnerability. -/
def cveList (issue : Issue) : List String :=
  issue.cves.getD []

/-- The score, if there is one. -/
def score? (issue : Issue) : Option String :=
  issue.cvss.bind (·.score)

/-- The reference of the trusted replacement, if there is one. -/
def trustedRef? (issue : Issue) : Option String :=
  (issue.remediation.bind (·.trustedContent)).map (·.ref)

end Issue

/-- A dependency as a source lists it, with the dependencies it brings along. -/
structure Dependency where
  ref : Option String
  issues : Option (List Issue)
  transitive : Option (List Dependency)
  recommendation : Option String
deriving Repr

/-- One source of vulnerability data. -/
structure Source where
  summary : Option Summary
  dependencies : Option (List Dependency)

/-- Whether a provider could be asked. -/
structure ProviderStatus where
  ok : Option Bool
deriving DecidableEq, Repr

/-- One provider of analyses. -/
structure Provider where
  status : Option ProviderStatus
  sources : Option (KeyMap Source)

/-- Whether the provider says that its analysis succeeded. -/
def Provider.succeeded (provider : Provider) : Bool :=
  (provider.status.bind (·.ok)).getD false

/-- The sources of the provider, in order of their names. -/
def Provider.sourceList (provider : Provider) : List (String × Source) :=
  (provider.sources.map KeyMap.toList).getD []

/-- The analysis of one manifest, or of one container image. -/
structure AnalysisReport where
  providers : Option (KeyMap Provider)

/-- The providers, in order of their names. -/
def AnalysisReport.providerList (report : AnalysisReport) : List (String × Provider) :=
  (report.providers.map KeyMap.toList).getD []

/-- What is converted: one analysis, or one for each container image. -/
inductive Report where
  | single (report : AnalysisReport)
  | images (reports : KeyMap AnalysisReport)

end ManifestSarif
