import VibeServeCore.Clients.RoundTiming
import VibeServeCore.Clients.Store
import VibeServeCore.Clock.WaitLimits
import VibeServeCore.Evaluation.Resumes
import VibeServeCore.Evaluators.Reservation
import VibeServeCore.Evaluators.UnorderedMap
import VibeServeCore.Flows.TurnBudget
import VibeServeCore.Journal.Attachments
import VibeServeCore.Kernel.Atomicity
import VibeServeCore.Kernel.FiredWatches
import VibeServeCore.Kernel.Lifecycle
import VibeServeCore.Kernel.WaitGraph
import VibeServeCore.Records.RecoveryGate
import VibeServeCore.Records.Redelivery
import VibeServeCore.Records.Retries
import VibeServeCore.Search.EvaluationQueue
import VibeServeCore.Search.Parents
import VibeServeCore.Search.Population
import VibeServeCore.Sessions.Delivery
import VibeServeCore.Settlements.Safety
import VibeServeCore.Stream.Persistent
import VibeServeCore.Values.Encoding
