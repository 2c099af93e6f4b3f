import DemandLoad.Session
import DemandLoad.Tracker.Op
import DemandLoad.Proofs.AbandonedWaiters
import DemandLoad.Proofs.BreadthFirstDrop
import DemandLoad.Proofs.DeferralConservation
import DemandLoad.Proofs.DemandClosure
import DemandLoad.Proofs.DrivenRequests
import DemandLoad.Proofs.ErrorAccounting
import DemandLoad.Proofs.ErrorReports
import DemandLoad.Proofs.ErrorTruth
import DemandLoad.Proofs.FailureBlame
import DemandLoad.Proofs.FinalErrors
import DemandLoad.Proofs.ForwardProgress
import DemandLoad.Proofs.GraphReadback
import DemandLoad.Proofs.JournalReplay
import DemandLoad.Proofs.LateRecordEquivalence
import DemandLoad.Proofs.LockstepSimulation
import DemandLoad.Proofs.OutcomeTruth
import DemandLoad.Proofs.OutermostRequests
import DemandLoad.Proofs.OutermostSweep
import DemandLoad.Proofs.PassCleanup
import DemandLoad.Proofs.PassTermination
import DemandLoad.Proofs.QueueHistories
import DemandLoad.Proofs.RedeclarationNoninterference
import DemandLoad.Proofs.RequestAllEquivalence
import DemandLoad.Proofs.RequestOrderIndependence
import DemandLoad.Proofs.SessionMoments
import DemandLoad.Proofs.StaleRequests
import DemandLoad.Proofs.StaticLoadOrder
import DemandLoad.Proofs.TargetPrograms
import DemandLoad.Proofs.TopologicalLoadOrder
import DemandLoad.Proofs.TracingErasure
import DemandLoad.Proofs.TrackerCallSafety
import DemandLoad.Proofs.TrackerInvariant
import DemandLoad.Proofs.UndeclaredReport
import DemandLoad.Proofs.UnresolvedNames
