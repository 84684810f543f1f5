import ManifestSarif.Main
import ManifestSarif.Proofs.AlignedFindings
import ManifestSarif.Proofs.AggregateSeverity
import ManifestSarif.Proofs.Delivery
import ManifestSarif.Proofs.SchemaConformance
import ManifestSarif.Proofs.ManifestLines
import ManifestSarif.Proofs.ReportedLines
import ManifestSarif.Proofs.Recommendations
import ManifestSarif.Proofs.CountedIssues
import ManifestSarif.Proofs.JsonGrammar
import ManifestSarif.Proofs.JsonParsing
import ManifestSarif.Proofs.RecordReading
import ManifestSarif.Proofs.ReportRoundTrip
import ManifestSarif.Proofs.FailedProviders
import ManifestSarif.Proofs.ImageConversions
import ManifestSarif.Proofs.Absence
import ManifestSarif.Proofs.OverlookingReaders
import ManifestSarif.Proofs.KnownMembers
import ManifestSarif.Proofs.StableGrouping
import ManifestSarif.Proofs.GroupLines
import ManifestSarif.Proofs.LineEndings
import ManifestSarif.Proofs.PairedRules
import ManifestSarif.Proofs.RecordTrees
import ManifestSarif.Proofs.LineNumbers
import ManifestSarif.Proofs.References
import ManifestSarif.Proofs.SinglePass
import ManifestSarif.Proofs.ChainedDefaults
import ManifestSarif.Proofs.Expansion
import ManifestSarif.Proofs.ArgDeclarations
import ManifestSarif.Proofs.ImageLines
import ManifestSarif.Proofs.ExtRegions
import ManifestSarif.Proofs.BlockComments
import ManifestSarif.Proofs.GradleLines
import ManifestSarif.Proofs.ShiftedLines
import ManifestSarif.Proofs.DecodedReferences
import ManifestSarif.Proofs.RelativeUris
import ManifestSarif.Proofs.TypeErrors
import ManifestSarif.Proofs.DetectedManifests
import ManifestSarif.Proofs.BoundedDepth
import ManifestSarif.Proofs.TalliedIssues
