import EntityModel.Annotations
import EntityModel.Association
import EntityModel.Binary64
import EntityModel.Binary64.Decimal
import EntityModel.BrokenReference
import EntityModel.Config
import EntityModel.Container
import EntityModel.EnumType
import EntityModel.Error
import EntityModel.Function
import EntityModel.Item
import EntityModel.Kinds
import EntityModel.Model
import EntityModel.Model.Assembly
import EntityModel.Model.Defect
import EntityModel.Model.Defects
import EntityModel.Namespace
import EntityModel.Proofs.Agreement
import EntityModel.Proofs.BuildCorrect
import EntityModel.Proofs.Children
import EntityModel.Proofs.Dispatches
import EntityModel.Proofs.Events
import EntityModel.Proofs.Extensions
import EntityModel.Proofs.FollowedReferences
import EntityModel.Proofs.FunctionSurface
import EntityModel.Proofs.Isolation
import EntityModel.Proofs.LogRun
import EntityModel.Proofs.Lookup
import EntityModel.Proofs.Loops
import EntityModel.Proofs.MetReferences
import EntityModel.Proofs.Overrides
import EntityModel.Proofs.Payload
import EntityModel.Proofs.QualifiedLookup
import EntityModel.Proofs.RealDefects
import EntityModel.Proofs.RecordedNames
import EntityModel.Proofs.Simulation
import EntityModel.Proofs.Stopping
import EntityModel.Proofs.TierChains
import EntityModel.Proofs.Transcripts
import EntityModel.Proofs.TrimmedDefects
import EntityModel.Proofs.TrimmedRuns
import EntityModel.Proofs.Trimming
import EntityModel.Proofs.Validation
import EntityModel.Proofs.WellFormed
import EntityModel.Property
import EntityModel.QualifiedName
import EntityModel.StructuredType
import EntityModel.Text.Printable
import EntityModel.Text.Quoted
import EntityModel.Toml.DateTime
import EntityModel.Toml.Digits
import EntityModel.Toml.Document
import EntityModel.Toml.Draft
import EntityModel.Toml.Number
import EntityModel.Toml.Reader
import EntityModel.Toml.Text
import EntityModel.Toml.Value
import EntityModel.Trace
import EntityModel.TypeReference
import EntityModel.Visit.Call
import EntityModel.Visit.Descent
import EntityModel.Visit.Effect
import EntityModel.Visit.KindLog
import EntityModel.Visit.Log
import EntityModel.Visit.Point
import EntityModel.Visit.Script
import EntityModel.Visit.Visitor
import EntityModel.Proofs.AddedNamespace
import EntityModel.Proofs.ContainersApart
import EntityModel.Proofs.Reordering
import EntityModel.Proofs.Collections
import EntityModel.Proofs.ReorderedRuns
import EntityModel.Proofs.AnnotationStore
import EntityModel.Proofs.FirstFailures
import EntityModel.Proofs.Entrances
import EntityModel.Proofs.Observations
import EntityModel.Proofs.Segments
import EntityModel.Proofs.Replays
import EntityModel.Proofs.FailFast
import EntityModel.Proofs.Interleaving
import EntityModel.Proofs.FreshLogs
import EntityModel.Proofs.DistinctKeys
import EntityModel.Proofs.FunctionPoints
import EntityModel.Proofs.ConfigGrammar
