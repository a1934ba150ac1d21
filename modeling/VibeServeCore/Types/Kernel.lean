/- source: types/*.py, _outcomes.py
   digest: The outbox, the state of the areas, the decisions, the run and the signals between areas. -/

import VibeServeCore.Types.Common

namespace VibeServeCore.Types

inductive ContinuationPhase
  | waiting | authorized | resumed | parked | cancelled | reopening | blocked
  deriving DecidableEq

structure EvaluationHistoryCursor where
  ordinal : Nat := 0
  submissionId : Option RequestId := none
  deriving DecidableEq

structure ResumeAuthorizationReceipt where
  continuationId : ContinuationId
  nextInvocation : InvocationRef
  evidence : List EvidenceRef
  historyCursor : Option EvaluationHistoryCursor
  timeout : Option TimedOut
  repeatedFailure : Option Payload
  deriving DecidableEq

structure Continuation where
  continuationId : ContinuationId
  invocation : InvocationRef
  nextInvocation : InvocationRef
  jobs : List ResourceId
  deadlineAt : Seconds
  phase : ContinuationPhase
  timeout : Option TimedOut := none
  spent : List JobTimeout := []
  downtimeCredit : Seconds := 0
  parkAuthority : Option RequestId := none
  reopenAuthority : Option RequestId := none
  cancelledResolutions : List ResourceId := []
  evidence : List EvidenceRef := []
  precedingSubmission : Option EvaluationHistoryCursor := none
  authorizationReceipt : Option ResumeAuthorizationReceipt := none
  deriving DecidableEq

inductive ReopenAdmission
  | reopened | closed | unknown
  deriving DecidableEq

structure ScopedAdmissionReopen where
  admission : ReopenAdmission
  scope : Scope
  deriving DecidableEq

structure Outcome where
  model : String
  canonicalJson : String
  reopen : Option ScopedAdmissionReopen := none
  deriving DecidableEq

structure OutcomeProof where
  outcome : Outcome
  schema : OperationSchemaRef
  deriving DecidableEq

inductive RequestPhase
  | prepared | dispatched | reconciling | completed | blocked
  deriving DecidableEq

namespace RequestPhase

def text : RequestPhase → String
  | .prepared => "prepared"
  | .dispatched => "dispatched"
  | .reconciling => "reconciling"
  | .completed => "completed"
  | .blocked => "blocked"

end RequestPhase

structure RequestRecord where
  requestId : RequestId
  request : Request
  payloadDigest : String
  lifecycle : LifecycleClass
  phase : RequestPhase
  sequence : Option Nat := none
  observation : Option Observation := none
  setupFailure : SetupFailureKind := .unknown
  evaluationResult : Option EvaluationTerminalFacts := none
  suspension : Option Continuation := none
  outcomeSchema : Option SchemaRef := none
  outcomeJson : Option String := none
  outcome : Option Outcome := none
  outcomeProof : Option OutcomeProof := none
  retryCount : Nat := 0
  retryAt : Option Seconds := none
  until_ : Until
  failure : Option Failed := none
  limitFromDispatch : Option Seconds := none
  dispatchedAt : Option Seconds := none
  dispatchedIn : Option Nat := none
  addressedBy : List RequestId := []
  deriving DecidableEq

namespace RequestRecord

def retryWaitUntil (row : RequestRecord) : Option Seconds :=
  match row.phase, row.observation with
  | .dispatched, some observation => if observation.retryable then row.retryAt else none
  | _, _ => none

def isCanonical (row : RequestRecord) : Bool := row.request.body.commandTarget?.isNone

def inFlight (row : RequestRecord) : Bool :=
  row.phase = .prepared || row.phase = .dispatched || row.phase = .reconciling

def isOpen (row : RequestRecord) : Bool := row.isCanonical && row.inFlight

def commandOpen (row : RequestRecord) : Bool := !row.isCanonical && row.inFlight

end RequestRecord

structure ChildObservationWatermark where
  sourceRequest : RequestId
  observation : Observation
  deriving DecidableEq

structure ChildLease where
  resourceId : ResourceId
  scope : Scope
  sourceRequests : List RequestId
  parentResources : List ResourceId := []
  observation : Option Observation := none
  observationWatermarks : List ChildObservationWatermark := []
  watermarkHistoryComplete : Bool := false
  deriving DecidableEq

inductive RecoveryPhase
  | required | recovering | ready | blocked
  deriving DecidableEq

inductive Resolution
  | pending | safePrepared | reattached | terminal | blocked
  deriving DecidableEq

structure RecoveryCheck where
  target : RequestId
  inspection : Option RequestId := none
  resolution : Resolution := .pending
  wait : Option WaitOn
  deriving DecidableEq

structure RecoveryBarrier where
  epoch : Nat := 0
  phase : RecoveryPhase := .required
  checks : List RecoveryCheck := []
  deriving DecidableEq

structure HostEpoch where
  epoch : Nat
  startedAt : Seconds
  aliveAt : Seconds
  deriving DecidableEq

structure RecordsState where
  records : List RequestRecord := []
  children : List ChildLease := []
  recovery : RecoveryBarrier := {}
  hosts : List HostEpoch := []
  deriving DecidableEq

namespace RecordsState

def find (state : RecordsState) (requestId : RequestId) : List RequestRecord :=
  state.records.filter fun row => row.requestId = requestId

def record (state : RecordsState) (requestId : RequestId) : Option RequestRecord :=
  state.records.find? fun row => row.requestId = requestId

def aboutResource (state : RecordsState) (resourceId : ResourceId) : List RequestRecord :=
  state.records.filter fun row => row.request.body.resource? = some resourceId

end RecordsState

inductive ReissueProof
  | neverBegan | begunUnsealed
  deriving DecidableEq

structure Facts where
  observation : Observation
  setupFailure : SetupFailureKind := .unknown
  revision : Option RevisionRef := none
  evidence : List EvidenceRef := []
  progress : Option JobProgress := none
  measurementFailure : Option MeasurementFailure := none
  evaluationResult : Option EvaluationTerminalFacts := none
  suspension : Option Continuation := none
  outcomeSchema : Option SchemaRef := none
  outcomeJson : Option String := none
  replyErrors : List Payload := []
  outcome : Option Outcome := none
  operationSchema : Option OperationSchemaRef := none
  outcomeProof : Option OutcomeProof := none
  deriving DecidableEq

namespace Facts

def outcomeIsRegistered (facts : Facts) : Bool :=
  match facts.outcomeProof with
  | none => false
  | some proof =>
    facts.outcome = some proof.outcome &&
      facts.outcomeJson = some proof.outcome.canonicalJson &&
      facts.operationSchema = some proof.schema &&
      (facts.outcomeSchema = none || facts.outcomeSchema = some proof.schema.outcomeSchema)

end Facts

structure TargetObservation extends Facts where
  targetResource : Option ResourceId := none
  reissue : Option ReissueProof := none
  deriving DecidableEq

structure RequestObserved extends Facts where
  target : Option TargetObservation := none
  deriving DecidableEq

structure RequestPrepared where
  request : Request
  until_ : Until
  lifecycle : LifecycleClass
  normalizedTurn : Option TurnSpec := none
  normalizedMeasurement : Option MeasurementIdentity := none
  normalizedScopeReopen : Option ScopeReopenNormalization := none
  deriving DecidableEq

inductive RecordsEvent
  | requestPrepared (event : RequestPrepared)
  | dispatchAuthorized (requestId : RequestId) (nowAt : Option Seconds)
  | requestObserved (event : RequestObserved)
  | recoveryStarted (epoch : Nat) (nowAt : Seconds)
  | recoveryReady (epoch : Nat)
  | reconciliationDeadline (requestId : RequestId) (nowAt : Seconds) (reason : FailureReason)
  | retryDue (requestId : RequestId) (nowAt : Seconds)
  | requestUndispatchable (requestId : RequestId)
  | blockedRecordStalled (requestId : RequestId)
  | reconciliationCommandLapsed (requestId : RequestId) (nowAt : Seconds)
  | recoveryCheckWaitLapsed (target : RequestId)
  | operationRetireRequested (operation : OperationRef) (scope : Scope)
  | hostRenewed (epoch : Nat) (nowAt : Seconds)
  deriving DecidableEq

def successWithoutReply (observation : Observation) : Bool :=
  observation.terminal && observation.accepted && observation.status = .succeeded

def replyOwed (observation : Observation) (facts : Facts) : Bool :=
  successWithoutReply observation && facts.suspension.isNone && facts.outcomeJson.isNone

inductive AttemptPhase
  | queued | acquiring | active | closing | terminal | parked | blocked
  deriving DecidableEq

inductive ClosureDisposition
  | park | cancel | settle
  deriving DecidableEq

structure AttemptClosure where
  disposition : ClosureDisposition
  requestedAt : Seconds
  authority : RequestId
  admissionId : DecisionId
  retentionRefused : Bool := false
  discardRefused : Bool := false
  deriving DecidableEq

structure AttemptCheckpoint where
  invocation : Option InvocationRef
  requestId : RequestId
  revision : RevisionRef
  retention : Retention
  deriving DecidableEq

inductive ChargeKind
  | admission | attempt | turn
  deriving DecidableEq

structure ChargeReceipt where
  chargeId : ChargeId
  kind : ChargeKind
  invocationId : Option InvocationId := none
  sourceRequest : Option RequestId := none
  charged : Nat
  refunded : Nat := 0
  historicalProof : Option Payload := none
  deriving DecidableEq

inductive EvaluationHistoryAvailability
  | complete | unavailable
  deriving DecidableEq

structure AttemptEvaluationRecord extends EvaluationTerminalFacts where
  ordinal : Nat
  submissionId : RequestId
  scope : Scope
  terminalObservation : Observation
  deriving DecidableEq

structure AttemptEvaluationHistory where
  availability : EvaluationHistoryAvailability := .unavailable
  coveredSubmissions : List RequestId := []
  records : List AttemptEvaluationRecord := []
  deriving DecidableEq

namespace AttemptEvaluationHistory

def cursor (history : AttemptEvaluationHistory) : EvaluationHistoryCursor :=
  ⟨history.coveredSubmissions.length, history.coveredSubmissions.getLast?⟩

end AttemptEvaluationHistory

structure AttemptView where
  attemptId : AttemptId
  itemId : ItemId
  generation : Nat
  phase : AttemptPhase
  workspace : WorkspacePlan
  budget : AttemptBudget
  admissionId : Option DecisionId := none
  closure : Option AttemptClosure := none
  checkpoints : List AttemptCheckpoint := []
  charges : List ChargeReceipt := []
  parent : Option AttemptRef := none
  pendingRecords : List RequestId := []
  sessions : List SessionId := []
  releaseDependencies : List ReleaseDependency := []
  evaluationHistory : AttemptEvaluationHistory := {}
  terminalReason : Option Payload := none
  checkpointDeclines : List Payload := []
  deriving DecidableEq

namespace AttemptView

def ref (row : AttemptView) : AttemptRef := ⟨row.attemptId, row.generation⟩

end AttemptView

structure AttemptsState where
  attempts : List AttemptView := []
  deriving DecidableEq

inductive SessionPhase
  | acquiring | idle | executing | checkpointed | suspended | closing | terminal | unknown
  deriving DecidableEq

structure SessionView where
  spec : SessionSpec
  scope : Scope
  generation : Nat
  phase : SessionPhase
  invocation : Option InvocationId := none
  accepted : Bool := false
  resourceId : Option ResourceId := none
  pendingRecords : List RequestId := []
  acceptanceSequence : Option Nat := none
  continuationId : Option ContinuationId := none
  wait : Option WaitOn := none
  deriving DecidableEq

structure Invocation where
  invocation : InvocationRef
  scope : Scope
  turn : TurnSpec
  registeredOperation : Option OperationId := none
  phase : SessionPhase
  observation : Option Observation := none
  outputSchema : Option SchemaRef := none
  outputJson : Option String := none
  reservedInputs : List Payload := []
  inputIds : List InputId := []
  evaluationPrefix : Option EvaluationHistoryCursor := none
  pendingSuspension : Option Continuation := none
  until_ : Until
  limit : Option Seconds := none
  wait : Option WaitOn := none
  deriving DecidableEq

inductive InputDropReason
  | ownerTerminal | ownerCancelled | runTerminal | invocationTerminal
  deriving DecidableEq

inductive InputReceipt
  | delivered (inputId : InputId) (invocation : InvocationRef) (observation : Observation)
  | dropped (inputId : InputId) (target : InputTarget) (reason : InputDropReason) (at_ : Seconds)
  deriving DecidableEq

namespace InputReceipt

def inputId : InputReceipt → InputId
  | .delivered inputId _ _ | .dropped inputId _ _ _ => inputId

end InputReceipt

structure InputRecord where
  input : SessionInput
  reservedTo : Option InvocationRef := none
  receipt : Option InputReceipt := none
  deriving DecidableEq

namespace InputRecord

def inputId (record : InputRecord) : InputId := record.input.inputId

end InputRecord

inductive InterruptPhase
  | pending | draining | checkpointed | completed | blocked
  deriving DecidableEq

structure InterruptClaim where
  invocation : InvocationRef
  authority : RequestId
  refund : Nat
  phase : InterruptPhase := .pending
  checkpointAuthority : Option RequestId := none
  refundedCharge : Option ChargeId := none
  wait : Option WaitOn
  deriving DecidableEq

inductive AcquisitionPhase
  | acquiring | ready | failed
  deriving DecidableEq

structure SessionAcquisitionGroup where
  attempt : AttemptRef
  admissionId : DecisionId
  scope : Scope
  sessionIds : List SessionId
  phase : AcquisitionPhase := .acquiring
  failureRequest : Option RequestId := none
  deriving DecidableEq

structure RunInvocationCheckpoint where
  invocation : InvocationRef
  scope : Scope
  requestId : RequestId
  revision : RevisionRef
  retention : Retention
  deriving DecidableEq

structure SessionsState where
  sessions : List SessionView := []
  invocations : List Invocation := []
  inputs : List InputRecord := []
  runCharges : List ChargeReceipt := []
  interrupts : List InterruptClaim := []
  acquisitionGroups : List SessionAcquisitionGroup := []
  runCheckpoints : List RunInvocationCheckpoint := []
  deriving DecidableEq

inductive JobOrigin
  | measurement (submissionId : RequestId) (plan : MeasurementPlan)
  | registered (requestId : RequestId) (operationId : OperationId) (resourcePool : PoolId)
      (expectedMeasurement : Option MeasurementIdentity)
  deriving DecidableEq

namespace JobOrigin

def submission : JobOrigin → RequestId
  | .measurement submissionId _ => submissionId
  | .registered requestId _ _ _ => requestId

end JobOrigin

structure ObservePacing where
  retries : Nat := 0
  deriving DecidableEq

structure OwnedJob where
  origin : JobOrigin
  resourceId : Option ResourceId
  scope : Scope
  observation : Option Observation := none
  progress : Option JobProgress := none
  children : List ResourceId := []
  status : ObservationStatus := .pending
  terminal : Bool := false
  released : Bool := false
  evidence : List EvidenceRef := []
  pacing : ObservePacing := {}
  wait : Option WaitOn := none
  queueCredit : Seconds := 0
  deriving DecidableEq

inductive SubmissionReceipt
  | prepared (requestId : RequestId) (ordinal : Nat) (observation : Option Observation)
      (failure : Option MeasurementFailure)
  | historical (ordinal : Nat) (content : Payload)
  deriving DecidableEq

structure SubmissionBudget where
  scope : Scope
  identity : MeasurementIdentity
  limit : Nat
  receipts : List SubmissionReceipt := []
  deriving DecidableEq

inductive AgentRejection
  | runStopping | notAdmitted | invalidPlan | notAllowed
  deriving DecidableEq

structure AgentCall where
  callId : String
  scope : Scope
  requestId : Option RequestId := none
  deadlineAt : Option Seconds := none
  repeat_ : Bool := false
  rejection : Option AgentRejection := none
  deriving DecidableEq

structure EvaluationState where
  jobs : List OwnedJob := []
  registeredJobs : List OwnedJob := []
  continuations : List Continuation := []
  evidence : List EvidenceRef := []
  submissionBudgets : List SubmissionBudget := []
  agentCalls : List AgentCall := []
  deriving DecidableEq

namespace EvaluationState

def allJobs (state : EvaluationState) : List OwnedJob :=
  state.jobs ++ state.registeredJobs

end EvaluationState

structure AttemptRequest where
  decisionId : DecisionId
  attemptId : AttemptId
  itemId : ItemId
  generation : Nat
  admissionCharge : Nat
  pools : List PoolId := []
  deriving DecidableEq

structure AttemptReopenRequest where
  decisionId : DecisionId
  requestId : RequestId
  attempt : AttemptRef
  pools : List PoolId := []
  deriving DecidableEq

inductive AdmissionRequest
  | start (request : AttemptRequest)
  | reopen (request : AttemptReopenRequest)
  deriving DecidableEq

namespace AdmissionRequest

def decisionId : AdmissionRequest → DecisionId
  | .start request | .reopen request => request.decisionId

def pools : AdmissionRequest → List PoolId
  | .start request | .reopen request => request.pools

def target : AdmissionRequest → AttemptRef
  | .start request => ⟨request.attemptId, request.generation⟩
  | .reopen request => request.attempt

end AdmissionRequest

structure Slot where
  attempt : AttemptRef
  admissionId : DecisionId
  pools : List PoolId := []
  admittedAt : Seconds
  chargeEndedAt : Option Seconds := none
  deriving DecidableEq

structure SchedulingState where
  queue : List AdmissionRequest := []
  slots : List Slot := []
  admissionClosed : Bool := false
  releasedSlotSeconds : Seconds := 0
  deriving DecidableEq

inductive SettlementOutcome
  | succeeded | failed | cancelled | blocked
  deriving DecidableEq

structure Settlement where
  settlementId : SettlementId
  attempt : AttemptRef
  candidate : Option RevisionRef
  assessments : List AssessmentProposal
  eligible : Bool
  retention : Retention
  outcome : SettlementOutcome
  deriving DecidableEq

inductive AdoptionFailureReason
  | adoptFailed | verifyFailed | contentMismatch | retriesExhausted
  deriving DecidableEq

structure Adoption where
  selection : Selection
  observation : Option Observation := none
  verified : Bool := false
  failure : Option AdoptionFailureReason := none
  deriving DecidableEq

structure SettlementState where
  settlements : List Settlement := []
  pending : List Settlement := []
  adoption : Option Adoption := none
  deriving DecidableEq

inductive WithdrawTarget
  | attempt (target : AttemptRef)
  | invocation (target : InvocationRef)
  | operation (target : OperationRef)
  deriving DecidableEq

structure Settle where
  assessments : List AssessmentProposal
  eligible : Bool
  retention : Retention
  outcome : SettlementOutcome
  candidate : Option RevisionRef := none
  deriving DecidableEq

inductive Disposition
  | park
  | cancel
  | settle (proposal : Settle)
  | interrupt (refund : Nat)
  deriving DecidableEq

structure OperationInput where
  kind : String
  lifecycle : LifecycleClass
  canonicalJson : String
  immutable : Bool := true
  deriving DecidableEq

structure OperationCommand where
  request : OperationInput
  normalizedTurn : Option TurnSpec := none
  normalizedMeasurement : Option MeasurementIdentity := none
  normalizedScopeReopen : Option ScopeReopenNormalization := none
  registeredWire : Option OperationWire := none
  registeredTurn : Option TurnSpec := none
  registeredMeasurement : Option MeasurementIdentity := none
  registeredScopeReopen : Option ScopeReopenNormalization := none
  deriving DecidableEq

inductive WorkBody
  | requestTurn (turn : TurnSpec)
  | startAttempt (attemptId : AttemptId) (itemId : ItemId) (workspace : WorkspacePlan)
      (budget : AttemptBudget) (initialSessions : List SessionSpec)
  | withdraw (target : WithdrawTarget) (disposition : Disposition)
  | measure (plan : MeasurementPlan)
  | proposeWinner (selection : Selection)
  | operation (command : OperationCommand)
  deriving DecidableEq

structure Work where
  decisionId : DecisionId
  scope : Scope
  body : WorkBody
  deriving DecidableEq

inductive ResultOutcome
  | success | failure | blocked | cancelled
  deriving DecidableEq

structure RunResultProposal where
  outcome : ResultOutcome
  reason : String
  selection : Option Selection := none
  deriving DecidableEq

structure Finish where
  decisionId : DecisionId
  scope : Scope
  mode : StopMode
  result : RunResultProposal
  deriving DecidableEq

inductive Command
  | work (request : Work)
  | finish (stop : Finish)
  deriving DecidableEq

namespace Command

def decisionId : Command → DecisionId
  | .work request => request.decisionId
  | .finish stop => stop.decisionId

def scope : Command → Scope
  | .work request => request.scope
  | .finish stop => stop.scope

end Command

inductive Submission
  | wait (request : Work) (until_ : Within)
  | finish (stop : Finish)
  deriving DecidableEq

namespace Submission

def command : Submission → Command
  | .wait request _ => .work request
  | .finish stop => .finish stop

end Submission

structure DependencyRef where
  decisionId : Option DecisionId := none
  requestId : Option RequestId := none
  deriving DecidableEq

structure Accepted where
  decisionId : DecisionId
  allocatedIds : List String := []
  requestIds : List RequestId := []
  queuePosition : Option Nat := none
  dependencies : List DependencyRef := []
  deriving DecidableEq

structure Rejected where
  decisionId : DecisionId
  code : RejectionCode
  path : List String
  detail : String
  retryAfter : Option DependencyRef := none
  deriving DecidableEq

inductive DecisionFeedback
  | accepted (feedback : Accepted)
  | rejected (feedback : Rejected)
  deriving DecidableEq

namespace DecisionFeedback

def isAccepted : DecisionFeedback → Bool
  | .accepted _ => true
  | .rejected _ => false

def decisionId : DecisionFeedback → DecisionId
  | .accepted feedback | .rejected feedback => feedback.decisionId

end DecisionFeedback

structure DecisionReceipt where
  decisionId : DecisionId
  decision : Option Command := none
  until_ : Option Until := none
  limit : Option Seconds := none
  payloadDigest : String
  feedback : DecisionFeedback
  requestIds : List RequestId := []
  completion : Option CompletionStatus := none
  deriving DecidableEq

inductive LifecycleCapability
  | park | interrupt | steer | suspend | profileCapture
  deriving DecidableEq

structure Capabilities where
  lifecycle : List LifecycleCapability := []
  operations : List OperationDescriptor := []
  deriving DecidableEq

structure SearchDeclaration where
  requiredOperations : List OperationSchemaRef := []
  optionalOperations : List OperationSchemaRef := []
  required : List LifecycleCapability := []
  optional : List LifecycleCapability := []
  deriving DecidableEq

structure RunState where
  runId : RunId
  generation : Nat := 0
  status : RunStatus := .running
  nowAt : Seconds
  deadlineAt : Seconds
  baseline : RevisionRef
  fingerprints : Fingerprints
  task : Option TaskTerms := none
  capabilities : Capabilities := {}
  limits : Limits
  requirements : EvidenceRequirements := {}
  declaration : SearchDeclaration := {}
  controls : List ControlInput := []
  receipts : List DecisionReceipt := []
  result : Option RunResultProposal := none
  deriving DecidableEq

structure CoreState where
  revision : Nat := 0
  run : RunState
  registry : List OperationDescriptor := []
  scheduling : SchedulingState := {}
  attempts : AttemptsState := {}
  sessions : SessionsState := {}
  evaluation : EvaluationState := {}
  settlement : SettlementState := {}
  records : RecordsState := {}
  deriving DecidableEq

inductive AdmissionAction
  | pause | resume | drain | cancel
  deriving DecidableEq

inductive SchedulingEvent
  | attemptRequested (request : AttemptRequest)
  | attemptReady (attempt : AttemptRef) (admissionId : DecisionId)
  | slotReleased (attempt : AttemptRef) (admissionId : DecisionId)
  | attemptReopenRequested (request : AttemptReopenRequest)
  | slotChargeEnded (attempt : AttemptRef) (admissionId : DecisionId) (endedAt : Seconds)
  | queueEntryRetired (attempt : AttemptRef) (admissionId : DecisionId)
  | clockAdvanced (nowAt : Seconds)
  | admissionControl (action : AdmissionAction)
  | adoptionFenceLifted
  deriving DecidableEq

/-- An event no modelled function takes apart: its canonical text, facts and time stamps. -/
structure OtherEvent where
  content : Payload
  observation : Option Observation := none
  admissionId : Option DecisionId := none
  scope : Option Scope := none
  stamps : List Seconds := []
  deriving DecidableEq

inductive AttemptsEvent
  | revisionOperationRequested (request : Request) (authority : RevisionAuthority)
      (until_ : Until)
  | revisionOperationObserved (operationId : OperationId) (observation : Observation)
      (revision : Option RevisionRef)
  | workspaceObserved (attempt : AttemptRef) (observation : Observation)
      (revision : Option RevisionRef)
  | releaseDependencyObserved (attempt : AttemptRef) (dependency : ReleaseDependency)
      (observation : Observation)
  | scopeAdmissionReopened (attempt : AttemptRef) (continuationId : ContinuationId)
      (parkAuthority : RequestId) (operationId : OperationId) (observation : Observation)
      (admission : ReopenAdmission)
  | retireRequested (attempt : AttemptRef) (disposition : ClosureDisposition)
      (authority : RequestId) (admissionId : DecisionId) (requestedAt : Seconds)
  | attemptRegistered (request : AttemptRequest) (workspace : WorkspacePlan)
      (budget : AttemptBudget) (initialSessions : List SessionSpec)
  | attemptAdmitted (admissionId : DecisionId) (request : AttemptRequest)
      (workspace : WorkspacePlan) (budget : AttemptBudget) (initialSessions : List SessionSpec)
  | scopeReopenAdmitted (attempt : AttemptRef) (requestId : RequestId) (admissionId : DecisionId)
  | retentionRequired (attempt : AttemptRef) (retention : Retention)
      (revision : Option RevisionRef)
  | scopeReopenRequested (request : Request) (normalization : ScopeReopenNormalization)
  | evaluationHistoryUpdated (attempt : AttemptRef) (history : AttemptEvaluationHistory)
  | other (event : OtherEvent)
  deriving DecidableEq

inductive InputEvent
  | sessionInputReceived (input : SessionInput)
  | steerReceived (invocation : InvocationRef) (inputs : List SessionInput)
  | inputReservationRequested (invocation : InvocationRef)
  | inputAcceptanceObserved (invocation : InvocationRef) (observation : Observation)
  | inputReservationReleased (invocation : InvocationRef) (observation : Observation)
  | sessionDrainRequested (attempt : AttemptRef) (authority : RequestId)
      (disposition : ClosureDisposition)
  deriving DecidableEq

namespace InputEvent

def observation? : InputEvent → Option Observation
  | .inputAcceptanceObserved _ observation | .inputReservationReleased _ observation =>
    some observation
  | _ => none

def receivedAt : InputEvent → List Seconds
  | .sessionInputReceived input => [input.receivedAt]
  | .steerReceived _ inputs => inputs.map SessionInput.receivedAt
  | _ => []

end InputEvent

inductive SessionsEvent
  | input (event : InputEvent)
  | turnInputsReserved (invocation : InvocationRef) (inputIds : List InputId)
  | registeredTurnRequested (request : Request) (turn : TurnSpec) (until_ : Until)
  | turnObserved (invocation : InvocationRef) (observation : Observation)
      (suspension : Option Continuation) (outputSchema : Option SchemaRef)
      (outputJson : Option String) (replyErrors : List Payload)
  | sessionObserved (sessionId : SessionId) (observation : Observation)
      (failure : SetupFailureKind)
  | runInvocationCheckpointObserved (invocation : InvocationRef) (checkpointRequest : RequestId)
      (observation : Observation) (revision : Option RevisionRef)
  | invocationCancellationRequested (invocation : InvocationRef) (authority : RequestId)
  | runSessionsDrainRequested (scope : Scope) (authority : DecisionId)
  | turnRequested (scope : Scope) (turn : TurnSpec) (until_ : Until)
  | interruptRequested (invocation : InvocationRef) (refund : Nat) (authority : RequestId)
  | checkpointStalled (invocation : InvocationRef)
  | acquisitionStalled (invocation : InvocationRef)
  | sessionWaitLapsed (sessionId : SessionId) (requestId : RequestId)
  | other (event : OtherEvent)
  deriving DecidableEq

inductive TerminationCause
  | deadline | retirement
  deriving DecidableEq

inductive ContinuationDisposition
  | park | cancel
  deriving DecidableEq

structure JobFacts where
  progress : Option JobProgress := none
  evidence : List EvidenceRef := []
  evaluationResult : Option EvaluationTerminalFacts := none
  operatorDiagnostic : String := ""
  deriving DecidableEq

inductive EvaluationEvent
  | registeredJobRequested (request : Request) (resourcePool : PoolId)
      (expectedMeasurement : Option MeasurementIdentity)
  | registeredJobObserved (operationId : OperationId) (observation : Observation)
      (facts : JobFacts)
  | jobObserved (resourceId : ResourceId) (observation : Observation) (facts : JobFacts)
      (failure : Option MeasurementFailure)
  | measurementSubmissionObserved (observation : Observation)
      (failure : Option MeasurementFailure)
  | jobTerminationRequested (resourceId : ResourceId) (cause : TerminationCause)
  | runJobsCancelRequested (scope : Scope) (authority : DecisionId)
  | observationsDue (nowAt : Seconds)
  | measurementRequested (scope : Scope) (plan : MeasurementPlan)
  | continuationReopenRequested (request : Request) (normalization : ScopeReopenNormalization)
  | jobWaitLapsed (job requestId : RequestId)
  | agentMeasurementRequested (scope : Scope) (plan : MeasurementPlan) (limit : Within)
      (callId : String)
  | jobsDrainRequested (scope : Scope) (authority : RequestId) (disposition : ClosureDisposition)
  | turnSuspended (continuation : Continuation)
  | deadlineReached (continuationId : ContinuationId) (nowAt : Seconds)
  | continuationJobsChanged (resourceId : ResourceId) (observation : Observation)
  | continuationRetireRequested (continuationId : ContinuationId)
      (disposition : ContinuationDisposition) (parkAuthority : Option RequestId)
  | continuationScopeReopened (continuationId : ContinuationId) (parkAuthority : RequestId)
      (observation : Observation)
  deriving DecidableEq

inductive SettlementEvent
  | adoptionObserved (observation : Observation) (revision : Option RevisionRef)
  | assessmentSubmitted (settlement : Settlement)
  | winnerProposed (selection : Selection)
  | ownershipSettled (attempt : AttemptRef) (released blocked : Bool)
  | attemptSettled (settlement : Settlement)
  deriving DecidableEq

inductive Signal
  | decisionCompleted (decisionId : DecisionId) (status : CompletionStatus)
  | scheduling (event : SchedulingEvent)
  | attempts (event : AttemptsEvent)
  | sessions (event : SessionsEvent)
  | evaluation (event : EvaluationEvent)
  | settlement (event : SettlementEvent)
  | records (event : RecordsEvent)
  | admitAttempt (request : AdmissionRequest)
  | registerAttempt (request : AttemptRequest)
  | closeAdmission
  | runDrained
  deriving DecidableEq

structure OperationResult where
  operationId : OperationId
  observation : Observation
  outcomeSchema : SchemaRef
  operationSchema : OperationSchemaRef
  outcomeJson : Option String
  outcome : Option Outcome
  outcomeProof : Option OutcomeProof
  deriving DecidableEq

def OperationResult.outcomeIsRegistered (result : OperationResult) : Bool :=
  match result.outcomeProof with
  | none => false
  | some proof =>
    result.outcome = some proof.outcome &&
      result.outcomeJson = some proof.outcome.canonicalJson &&
      result.operationSchema = proof.schema && result.outcomeSchema = proof.schema.outcomeSchema

structure MeasurementResult where
  scope : Scope
  sourceRequest : Option RequestId := none
  evidence : List EvidenceRef
  status : ObservationStatus
  failure : Option MeasurementFailure := none
  diagnostic : String := ""
  operatorDiagnostic : String := ""
  deriving DecidableEq

structure JobQueued where
  scope : Scope
  resourceId : ResourceId
  sourceRequest : RequestId
  queuedS : Seconds
  budgetLeftS : Seconds
  pendingReason : Option String := none
  deriving DecidableEq

structure ResumeAuthorized where
  continuationId : ContinuationId
  nextInvocation : InvocationRef
  evidence : List EvidenceRef
  timeout : Option TimedOut := none
  historyCursor : Option EvaluationHistoryCursor := none
  deriving DecidableEq

inductive StrategyEvent
  | feedback (feedback : DecisionFeedback)
  | operationResult (result : OperationResult)
  | attemptReady (attempt : AttemptRef) (admissionId : DecisionId)
  | inputReceipt (receipt : InputReceipt)
  | failed (failure : Failed)
  | controlChanged (control : ControlInput)
  | runEnded (result : RunResultProposal)
  | attemptSettled (settlement : Settlement)
  | adoptionResult (selection : Selection) (observation : Observation)
  | adoptionFailed (selection : Selection) (reason : AdoptionFailureReason)
      (observation : Observation) (rounds : Nat)
  | turnSuspended (continuation : Continuation)
  | resumeAuthorized (authorization : ResumeAuthorized)
  | measurementResult (result : MeasurementResult)
  | jobQueued (notice : JobQueued)
  | other (event : Payload)
  deriving DecidableEq

structure AreaChange (S : Type) where
  state : S
  signals : List Signal := []
  requests : List Outbound := []
  events : List StrategyEvent := []
  deriving DecidableEq

namespace AreaChange

variable {S : Type}

def merge (first second : AreaChange S) : AreaChange S where
  state := second.state
  signals := (first.signals ++ second.signals).eraseDups
  requests := (first.requests ++ second.requests).eraseDups
  events := first.events ++ second.events

end AreaChange

structure SchedulingContext where
  run : RunState
  attempts : AttemptsState
  records : RecordsState
  sessions : SessionsState
  settlement : SettlementState
  evaluation : EvaluationState

structure SessionsContext where
  run : RunState
  attempts : AttemptsState
  evaluation : EvaluationState
  records : RecordsState

structure EvaluationContext where
  run : RunState
  attempts : AttemptsState
  sessions : SessionsState
  records : RecordsState

structure SettlementContext where
  run : RunState
  attempts : AttemptsState
  sessions : SessionsState
  evaluation : EvaluationState
  records : RecordsState

structure RecordsContext where
  run : RunState
  registry : List OperationDescriptor
  attempts : AttemptsState
  sessions : SessionsState
  evaluation : EvaluationState

def CoreState.settlementContext (state : CoreState) : SettlementContext where
  run := state.run
  attempts := state.attempts
  sessions := state.sessions
  evaluation := state.evaluation
  records := state.records

def CoreState.recordsContext (state : CoreState) : RecordsContext where
  run := state.run
  registry := state.registry
  attempts := state.attempts
  sessions := state.sessions
  evaluation := state.evaluation

def CoreState.schedulingContext (state : CoreState) : SchedulingContext where
  run := state.run
  attempts := state.attempts
  records := state.records
  sessions := state.sessions
  settlement := state.settlement
  evaluation := state.evaluation

def CoreState.withReceipts (state : CoreState) (receipts : List DecisionReceipt) : CoreState :=
  { state with run := { state.run with receipts } }

/-! ## Top-level events and transitions -/

inductive CoreEvent
  | proposalSubmitted (decisions : List Submission) (expectedRevision : Nat)
  | decisionSubmitted (decision : Submission) (expectedRevision : Nat)
  | runControl (control : ControlInput) (nowAt : Seconds) (result : Option RunResultProposal)
  | area (event : Signal)

structure Transition where
  state : CoreState
  requests : List Request := []
  events : List StrategyEvent := []
  deriving DecidableEq

def Transition.andThen (done next : Transition) : Transition where
  state := next.state
  requests := done.requests ++ next.requests
  events := done.events ++ next.events

/-- A contract error with its path, a validation error, a contradiction, or the recursion bound. -/
inductive CoreError
  | contract (path : List String) (detail : String)
  | validation (path : String) (detail : String)
  | closedRecord (requestId : RequestId)
  | recursion
  deriving DecidableEq

/-- A core error, a rejection, an unimplemented event, or a repeated signal (none: too many). -/
inductive StepError
  | core (error : CoreError)
  | leafRejection (feedback : Rejected)
  | notImplemented (area : Area) (detail : String)
  | signalCycle (signal : Option Signal)
  deriving DecidableEq

inductive AreaState
  | scheduling (state : SchedulingState)
  | attempts (state : AttemptsState)
  | sessions (state : SessionsState)
  | evaluation (state : EvaluationState)
  | settlement (state : SettlementState)
  | records (state : RecordsState)

abbrev Dispatch := CoreState → Signal → Except StepError (AreaChange AreaState)

end VibeServeCore.Types
