import Linkage.Archive.Inflate
import Linkage.Archive.Zip
import Linkage.Artifact.Coordinate
import Linkage.Artifact.Dependency
import Linkage.Artifact.Version
import Linkage.Check.Access
import Linkage.Check.Checker
import Linkage.Check.Hierarchy
import Linkage.Check.Inquiry
import Linkage.Check.Reference
import Linkage.Check.References
import Linkage.ClassFile.Access
import Linkage.ClassFile.Bytecode
import Linkage.ClassFile.Constant
import Linkage.ClassFile.Decoder
import Linkage.ClassFile.Descriptor
import Linkage.ClassFile.Draft
import Linkage.ClassFile.FormatError
import Linkage.ClassFile.Info
import Linkage.ClassFile.ModifiedUtf8
import Linkage.ClassFile.Platform
import Linkage.ClassFile.Reader
import Linkage.Classpath.Annotated
import Linkage.Classpath.Entry
import Linkage.CommandLine.Arguments
import Linkage.CommandLine.Run
import Linkage.Config
import Linkage.Diagnosis
import Linkage.Error
import Linkage.Exclusion.Reader
import Linkage.Exclusion.Rule
import Linkage.Exclusion.Writer
import Linkage.Failure
import Linkage.File.Path
import Linkage.File.System
import Linkage.Graph
import Linkage.Json.Raw
import Linkage.Json.Value
import Linkage.Main
import Linkage.Markup.Character
import Linkage.Markup.CharacterData
import Linkage.Markup.Token
import Linkage.Markup.Tree
import Linkage.Ordered
import Linkage.Pairs
import Linkage.Pom.Effective
import Linkage.Pom.Model
import Linkage.Pom.Placeholder
import Linkage.Problem
import Linkage.Proofs.AbsentClasses
import Linkage.Proofs.AbstractMethods
import Linkage.Proofs.ArtifactSelection
import Linkage.Proofs.Baselines
import Linkage.Proofs.CacheTransparency
import Linkage.Proofs.ClassAccess
import Linkage.Proofs.CodeUnits
import Linkage.Proofs.CompleteRuns
import Linkage.Proofs.Constructors
import Linkage.Proofs.Declarations
import Linkage.Proofs.DescriptorGrammar
import Linkage.Proofs.Diagnoses
import Linkage.Proofs.DiagnosisHistory
import Linkage.Proofs.DraftPool
import Linkage.Proofs.Encoding
import Linkage.Proofs.EnforcedPlatform
import Linkage.Proofs.EntryOrder
import Linkage.Proofs.FieldResolution
import Linkage.Proofs.Findings
import Linkage.Proofs.FiniteWalks
import Linkage.Proofs.Guards
import Linkage.Proofs.HighestMediation
import Linkage.Proofs.Inquiry
import Linkage.Proofs.InstructionGrammar
import Linkage.Proofs.LevelOrder
import Linkage.Proofs.Lookup
import Linkage.Proofs.MalformedClasses
import Linkage.Proofs.MediationAgreement
import Linkage.Proofs.MethodResolution
import Linkage.Proofs.NearestMediation
import Linkage.Proofs.NumericVersions
import Linkage.Proofs.Ordered
import Linkage.Proofs.OrderedSets
import Linkage.Proofs.Origins
import Linkage.Proofs.OutermostClasses
import Linkage.Proofs.ParameterTexts
import Linkage.Proofs.PlaceholderExpansion
import Linkage.Proofs.Placement
import Linkage.Proofs.PomPrecedence
import Linkage.Proofs.PoolTexts
import Linkage.Proofs.Reachability
import Linkage.Proofs.ReachableProblems
import Linkage.Proofs.RecentKeys
import Linkage.Proofs.ReportScope
import Linkage.Proofs.Repository
import Linkage.Proofs.ResolvedPaths
import Linkage.Proofs.RoundTrip
import Linkage.Proofs.RunComposition
import Linkage.Proofs.SamePath
import Linkage.Proofs.Sources
import Linkage.Proofs.StoredClasses
import Linkage.Proofs.Supertypes
import Linkage.Proofs.TruncatedClasses
import Linkage.Proofs.UnusedClasses
import Linkage.Proofs.UsedConstants
import Linkage.Proofs.VersionEndings
import Linkage.Proofs.VersionOrder
import Linkage.Proofs.VersionReading
import Linkage.Proofs.VisitingOrder
import Linkage.Proofs.WalkSteps
import Linkage.Proofs.WellFormedWalks
import Linkage.Proofs.WrittenElements
import Linkage.Proofs.WrittenPools
import Linkage.Proofs.WrittenRules
import Linkage.Proofs.WrittenTokens
import Linkage.References
import Linkage.Report
import Linkage.Repository.Loader
import Linkage.Repository.Lru
import Linkage.Repository.Session
import Linkage.Resolution.Builder
import Linkage.Resolution.Graph
import Linkage.Resolution.Layout
import Linkage.Resolution.Mediation
import Linkage.Resolution.Mention
import Linkage.Resolution.Origin
import Linkage.Resolution.Walk
import Linkage.Symbol
import Linkage.Text.Affix
import Linkage.Text.Blank
import Linkage.Text.CaseData
import Linkage.Text.Lowercase
import Linkage.Text.Split
import Linkage.Text.Utf8
