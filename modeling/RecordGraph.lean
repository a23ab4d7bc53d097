import RecordGraph.Main
import RecordGraph.Proofs.FilterMeaning
import RecordGraph.Proofs.FilterLayout
import RecordGraph.Proofs.ShortestDecimal
import RecordGraph.Proofs.CompactText
import RecordGraph.Proofs.LooseEquality
import RecordGraph.Proofs.KeyOrder
import RecordGraph.Proofs.PathWrites
import RecordGraph.Proofs.WrittenPaths
import RecordGraph.Proofs.RelationQueries
import RecordGraph.Proofs.Clobbering
import RecordGraph.Proofs.OwnerIndependence
import RecordGraph.Proofs.Attachments
import RecordGraph.Proofs.EagerEntries
import RecordGraph.Proofs.Interleaving
import RecordGraph.Proofs.SideBySide
import RecordGraph.Proofs.InSequence
import RecordGraph.Proofs.InterleavingOutcome
import RecordGraph.Proofs.ReadOnly
import RecordGraph.Proofs.LoadFailures
import RecordGraph.Proofs.DottedPaths
import RecordGraph.Proofs.EqualityCriteria
import RecordGraph.Proofs.RequestBound
import RecordGraph.Proofs.DeeperLoading
import RecordGraph.Proofs.OperatorObjects
import RecordGraph.Proofs.AddedEntries
import RecordGraph.Proofs.Siblings
import RecordGraph.Proofs.Pages
import RecordGraph.Proofs.NearestDouble
import RecordGraph.Proofs.NumberComparison
import RecordGraph.Proofs.NestedLoops
import RecordGraph.Proofs.SortedReads
import RecordGraph.Proofs.UntouchedFields
import RecordGraph.Proofs.LoadingAgain
import RecordGraph.Proofs.FieldSelection
import RecordGraph.Proofs.ZeroCounts
import RecordGraph.Proofs.CountTexts
import RecordGraph.Proofs.AddedCriteria
import RecordGraph.Proofs.LevelDepth
import RecordGraph.Proofs.UnknownTargets
import RecordGraph.Proofs.SortKeys
import RecordGraph.Proofs.FirstAppearances
import RecordGraph.Proofs.RelationLogs
import RecordGraph.Proofs.BatchedRequests
import RecordGraph.Proofs.OperatorAgreement
import RecordGraph.Proofs.StoreHistory
import RecordGraph.Proofs.ReadingText
import RecordGraph.Proofs.ReadingBack
