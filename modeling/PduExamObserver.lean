import PduExamObserver.ResearchRuntime.GapAccounting
import PduExamObserver.Authority.PassCounters
import PduExamObserver.ResearchRuntime.FollowUp
import PduExamObserver.ResearchRuntime.Evidence
import PduExamObserver.Authority.Execution
import PduExamObserver.Native.PassOrder
import PduExamObserver.Native.Releases
import PduExamObserver.Training.Provenance
import PduExamObserver.Training.SessionRoom
import PduExamObserver.Training.ExportRoundTrip
import PduExamObserver.Models.Decisions
import PduExamObserver.Native.LeafSwap
import PduExamObserver.Synthetic.ReviewSlots
import PduExamObserver.Synthetic.TimingLaw
import PduExamObserver.Training.MergedEvents
import PduExamObserver.Training.LostWindows
import PduExamObserver.Models.HeldOut
import PduExamObserver.Training.ModelWindows
import PduExamObserver.Showcase.OnnxTensors
import PduExamObserver.Web.PreparationKeys
import PduExamObserver.Web.SseRoundTrip
import PduExamObserver.Native.FrameReader
import PduExamObserver.Training.Abstention
import PduExamObserver.Services.ReviewerLogin
import PduExamObserver.Services.ReviewerBearer
import PduExamObserver.Training.Resampling
import PduExamObserver.Services.AclProbe
import PduExamObserver.M1R1.HandleDeletion
import PduExamObserver.Services.StreamRuns
import PduExamObserver.M1.Consent
import PduExamObserver.Services.ExamSessions
import PduExamObserver.M1R1.RunEnds
import PduExamObserver.M1R1.Finalization
import PduExamObserver.M1R1.History
import PduExamObserver.ResearchRuntime.EventRows
import PduExamObserver.M1R1.CoveredPlans
import PduExamObserver.Workspace.LiveRuns
import PduExamObserver.ResearchRuntime.Timeline
