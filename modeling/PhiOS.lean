import PhiOS.Library.ClaimProtocol
import PhiOS.Model.Value
import PhiOS.Model.Effects
import PhiOS.Model.Authority
import PhiOS.Model.ActionLease
import PhiOS.Analysis.LeaseWithinAuthority
import PhiOS.Model.Spine
import PhiOS.Model.Ledger
import PhiOS.Model.ExecutionHandoff
import PhiOS.Model.LeasedExecutionHandoff
import PhiOS.Analysis.LedgerClaims
import PhiOS.Analysis.HandoffProtocol
import PhiOS.Analysis.BindingOnce
import PhiOS.Analysis.LeasedHandoffOnce
import PhiOS.Model.GhostWalkLease
import PhiOS.Model.LeaseExecutionHandoff
import PhiOS.Analysis.SpineStages
import PhiOS.Analysis.SpineEntry
import PhiOS.Analysis.SpineReceipts
import PhiOS.Analysis.LeaseSpentOnce
import PhiOS.Model.ActionLeaseService
import PhiOS.Analysis.LeasePerBinding
import PhiOS.Model.CanonicalJson
import PhiOS.Model.MacroRunner
import PhiOS.Library.KeyedBlocks
import PhiOS.Analysis.MacroMeaning
import PhiOS.Analysis.MacroMoves
import PhiOS.Analysis.MacroRefinement
import PhiOS.Analysis.MacroRuns
import PhiOS.Library.CrashTriple
import PhiOS.Model.StateLog
import PhiOS.Analysis.StateLogLines
import PhiOS.Analysis.StateLogTriples
import PhiOS.Analysis.StateLogSurvival
import PhiOS.Model.ReflexRecords
import PhiOS.Model.ReflexSigned
import PhiOS.Model.ReflexStore
import PhiOS.Model.ReflexControlPlane
import PhiOS.Model.ReflexAuthority
import PhiOS.Model.ReflexLifecycle
import PhiOS.Analysis.ReflexFootprints
import PhiOS.Model.ReflexCalls
import PhiOS.Analysis.ReflexReads
import PhiOS.Analysis.ReflexMoves
import PhiOS.Analysis.AnchorNames
import PhiOS.Analysis.RotationNarrowing
import PhiOS.Analysis.ActiveGrants
import PhiOS.Analysis.RetiredKeys
import PhiOS.Model.MemoryRecord
import PhiOS.Model.EvidenceHorizon
import PhiOS.Model.TransformationLineage
import PhiOS.Model.MemoryStore
import PhiOS.Model.MemoryReceipts
import PhiOS.Model.GovernedMemory
import PhiOS.Analysis.MemoryStoreSteps
import PhiOS.Analysis.MemoryPuts
import PhiOS.Analysis.MemoryIsolation
import PhiOS.Analysis.MemoryReconsolidation
import PhiOS.Model.MemoryCalls
import PhiOS.Analysis.IndexedMemories
import PhiOS.Analysis.IndexRuns
import PhiOS.Analysis.MissedMemories
import PhiOS.Model.CuriosityPayload
import PhiOS.Model.CuriosityBroker
import PhiOS.Analysis.BrokerRequests
import PhiOS.Analysis.BrokerRuns
import PhiOS.Library.DecimalText
import PhiOS.Model.Calendar
import PhiOS.Model.MacroStart
import PhiOS.Model.MacroSchedule
import PhiOS.Library.StableSort
import PhiOS.Analysis.CalendarOrder
import PhiOS.Analysis.PollWindows
import PhiOS.Analysis.PollSeams
import PhiOS.Analysis.PollComposition
import PhiOS.Analysis.RecoveryOutcome
import PhiOS.Analysis.LedgerLoss
import PhiOS.Analysis.ControlLedger
import PhiOS.Analysis.RecoveryTotal
import PhiOS.Model.ReflexControlCalls
import PhiOS.Analysis.LeaseDeadlines
import PhiOS.Library.LeastCost
import PhiOS.Model.RelationalField
import PhiOS.Analysis.LeastCostPaths
import PhiOS.Model.DynamicField
import PhiOS.Model.DynamicState
import PhiOS.Model.FieldAwareRouting
import PhiOS.Analysis.FieldAwareRoutes
import PhiOS.Model.GovernedReplanning
import PhiOS.Analysis.ReplanDecisions
import PhiOS.Model.GovernedPlanAdoption
import PhiOS.Analysis.JsonCodes
import PhiOS.Analysis.PlanAdoptions
import PhiOS.Model.MacroRuntime
import PhiOS.Analysis.AppliedEffects
import PhiOS.Model.IdentityRecovery
import PhiOS.Analysis.RecoveredIdentity
import PhiOS.Library.BreadthFirst
import PhiOS.Model.GeometricReasoning
import PhiOS.Analysis.QuotientSearches
import PhiOS.Model.TemporalEnvelope
import PhiOS.Analysis.EnvelopeWindows
import PhiOS.Model.TransformationBuild
import PhiOS.Analysis.DerivedLineage
import PhiOS.Analysis.LineageContent
import PhiOS.Library.UnionFind
import PhiOS.Model.EvidenceIndependence
import PhiOS.Analysis.DependencyGroups
import PhiOS.Model.JsonText
import PhiOS.Analysis.JsonRoundTrip
import PhiOS.Analysis.IdentifiedAppends
import PhiOS.Analysis.BrokerEviction
import PhiOS.Analysis.MemoryReplays
import PhiOS.Model.SemanticSearch
import PhiOS.Analysis.SearchRevalidation
import PhiOS.Model.TransitionCoordinator
import PhiOS.Analysis.SingleUseBaselines
import PhiOS.Model.GovernedActionBinding
import PhiOS.Analysis.BoundExecution
import PhiOS.Model.MacroDispatcher
import PhiOS.Analysis.PlanPaths
import PhiOS.Analysis.DispatchedPasses
import PhiOS.Analysis.PlanMarkers
import PhiOS.Analysis.SplitAdvances
import PhiOS.Model.MemoryExpiry
import PhiOS.Analysis.ExpiryTexts
import PhiOS.Analysis.BrokerCapacity
import PhiOS.Analysis.FieldEvents
import PhiOS.Model.PythonValues
import PhiOS.Model.MacroRuntimeCalls
import PhiOS.Analysis.RaisingCalls
import PhiOS.Analysis.LeaseRenewals
import PhiOS.Model.RootAttestation
import PhiOS.Analysis.ArtifactSearch
import PhiOS.Analysis.ControlCollapse
import PhiOS.Analysis.ArtifactAttestation
import PhiOS.Analysis.ActivationNonces
import PhiOS.Model.MacroScheduleWorker
import PhiOS.Analysis.CalendarReads
import PhiOS.Analysis.LeaseChains
import PhiOS.Analysis.WorkerLeases
import PhiOS.Analysis.WorkerRuns
import PhiOS.Model.LocalJson
import PhiOS.Analysis.JsonPointers
import PhiOS.Analysis.ConnectedGroups
import PhiOS.Model.RuntimeProgram
import PhiOS.Analysis.RuntimeRuns
import PhiOS.Analysis.LiveGrants
import PhiOS.Analysis.ReadinessEvidence
import PhiOS.Analysis.ApprovedDownloads
import PhiOS.Analysis.StoredRevisions
import PhiOS.Analysis.RecordedMemories
import PhiOS.Analysis.RunsInPlan
import PhiOS.Analysis.GrantedAuthority
import PhiOS.Analysis.FieldStates
