import TypeWitness.CommandLine.Arguments
import TypeWitness.CommandLine.LogFormat
import TypeWitness.Declaration.Accessor
import TypeWitness.Declaration.Container
import TypeWitness.Declaration.Owner
import TypeWitness.Diagnostic.Basic
import TypeWitness.Diagnostic.Problem
import TypeWitness.Diagnostic.Report
import TypeWitness.Files.Access
import TypeWitness.Files.Path
import TypeWitness.Files.Tree
import TypeWitness.Generation.CastPlan
import TypeWitness.Generation.Collection
import TypeWitness.Generation.ContainerClass
import TypeWitness.Generation.Grouping
import TypeWitness.Generation.Holder
import TypeWitness.Generation.Options
import TypeWitness.Generation.Target
import TypeWitness.Identifier
import TypeWitness.Json.Draft
import TypeWitness.Json.Reader
import TypeWitness.Json.Token
import TypeWitness.Json.Value
import TypeWitness.Main
import TypeWitness.Manifest.Basic
import TypeWitness.Manifest.Reader
import TypeWitness.Manifest.Writer
import TypeWitness.Output.Emission
import TypeWitness.Output.FileStore
import TypeWitness.Output.MemoryStore
import TypeWitness.Output.Workers
import TypeWitness.Reference.Heap
import TypeWitness.Reference.IdentityMap
import TypeWitness.Run
import TypeWitness.Settings.Basic
import TypeWitness.Settings.Json
import TypeWitness.Source.Expression
import TypeWitness.Source.Layout
import TypeWitness.Source.Syntax
import TypeWitness.Text.Alphabetic
import TypeWitness.Text.Blank
import TypeWitness.Text.ByteLength
import TypeWitness.Text.CaseMapping
import TypeWitness.Text.CodeRange
import TypeWitness.Text.Numeric
import TypeWitness.Text.Sorting
import TypeWitness.Text.Substitution
import TypeWitness.TypeExpr.Basic
import TypeWitness.TypeExpr.Parser
import TypeWitness.TypeExpr.Printer
import TypeWitness.TypeExpr.Token
import TypeWitness.Witness.Narrowing
import TypeWitness.Witness.Slot
import TypeWitness.Witness.View
import TypeWitness.Proofs.CastAgreement
import TypeWitness.Proofs.CollectionOrder
import TypeWitness.Proofs.SortedAccessors
import TypeWitness.Proofs.BoundsClosure
import TypeWitness.Proofs.CastSignatures
import TypeWitness.Proofs.MarkerAccounting
import TypeWitness.Proofs.OrderIndependence
import TypeWitness.Proofs.TypeGrammar
import TypeWitness.Proofs.TypeRoundTrip
import TypeWitness.Proofs.CastShapes
import TypeWitness.Proofs.GroupsByType
import TypeWitness.Proofs.PackageFrame
import TypeWitness.Proofs.OptionIndependence
import TypeWitness.Proofs.PathComponents
import TypeWitness.Proofs.TargetPaths
import TypeWitness.Proofs.FileTreeLaws
import TypeWitness.Proofs.StoredTargets
import TypeWitness.Proofs.AllocationMaps
import TypeWitness.Proofs.ManifestRoundTrip
import TypeWitness.Proofs.ExpressionRoundTrip
import TypeWitness.Proofs.ParameterIndices
import TypeWitness.Proofs.NarrowingOutcomes
import TypeWitness.Proofs.PartialNarrowings
import TypeWitness.Proofs.AcceptedTypes
import TypeWitness.Proofs.RecoverableParameters
import TypeWitness.Proofs.ParameterNames
import TypeWitness.Proofs.Overloads
import TypeWitness.Proofs.CanonicalDeclarations
import TypeWitness.Proofs.MemberOrder
import TypeWitness.Proofs.TypeErrorPlaces
import TypeWitness.Proofs.LineEnds
import TypeWitness.Proofs.InnermostErasure
import TypeWitness.Proofs.EmissionOrder
import TypeWitness.Proofs.FileSessions
import TypeWitness.Proofs.ConfigurationSnapshot
import TypeWitness.Proofs.NoEmitSetting
import TypeWitness.Proofs.BoundsReachability
import TypeWitness.Proofs.QuotedArguments
