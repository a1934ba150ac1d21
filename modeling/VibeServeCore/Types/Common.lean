/- source: types/*.py
   digest: Strict immutable values of the core and its canonical outbound requests. -/

import Mathlib.Algebra.Order.Field.Rat
import Mathlib.Data.List.Dedup

namespace VibeServeCore.Types

inductive IdentityKind
  | run | attempt | item | session | invocation | continuation | input | decision | request
  | event | operation | resource | revision | pool | charge | control | role | settlement
  | evidence

structure Identity (kind : IdentityKind) where
  root : String
  deriving DecidableEq

instance {kind : IdentityKind} : LawfulBEq (Identity kind) := inferInstance

abbrev RunId := Identity .run
abbrev AttemptId := Identity .attempt
abbrev ItemId := Identity .item
abbrev SessionId := Identity .session
abbrev InvocationId := Identity .invocation
abbrev ContinuationId := Identity .continuation
abbrev InputId := Identity .input
abbrev DecisionId := Identity .decision
abbrev RequestId := Identity .request
abbrev EventId := Identity .event
abbrev OperationId := Identity .operation
abbrev ResourceId := Identity .resource
abbrev RevisionId := Identity .revision
abbrev PoolId := Identity .pool
abbrev ChargeId := Identity .charge
abbrev ControlId := Identity .control
abbrev RoleId := Identity .role
abbrev SettlementId := Identity .settlement
abbrev EvidenceId := Identity .evidence

abbrev Seconds := ℚ

structure Payload where
  text : String
  deriving DecidableEq

structure SchemaRef where
  name : String
  version : Nat
  deriving DecidableEq

structure RevisionRef where
  revisionId : RevisionId
  digest : String
  deriving DecidableEq

inductive Owner
  | run (id : RunId)
  | attempt (id : AttemptId)
  deriving DecidableEq

namespace Owner

def isAttempt : Owner → Bool
  | .attempt _ => true
  | .run _ => false

end Owner

structure Scope where
  owner : Owner
  generation : Nat
  deriving DecidableEq

structure AttemptRef where
  attemptId : AttemptId
  generation : Nat
  deriving DecidableEq

namespace AttemptRef

def scope (target : AttemptRef) : Scope := ⟨.attempt target.attemptId, target.generation⟩

end AttemptRef

structure InvocationRef where
  sessionId : SessionId
  invocationId : InvocationId
  generation : Nat
  deriving DecidableEq

structure OperationRef where
  operationId : OperationId
  generation : Nat
  deriving DecidableEq

inductive LifecycleClass
  | query | idempotentWrite | ownedJob | sessionTurn
  deriving DecidableEq

inductive ObservationStatus
  | succeeded | pending | cancelled | rejected | failed | unknown
  deriving DecidableEq

namespace ObservationStatus

def retryableFailure : ObservationStatus → Bool
  | .failed | .rejected | .cancelled => true
  | .succeeded | .pending | .unknown => false

end ObservationStatus

inductive RunStatus
  | running | paused | closing | terminal | blocked
  deriving DecidableEq

inductive RejectionCode
  | staleView | identityConflict | unknownKind | unknownSchema | undeclaredOperation | capability
  | ownership | generation | closedScope | budget | dependency | evidence | alreadySettled
  | notImplementedInKernel
  deriving DecidableEq

inductive Area
  | scheduling | attempts | sessions | evaluation | settlement | records
  deriving DecidableEq

namespace Area

def text : Area → String
  | .scheduling => "scheduling"
  | .attempts => "attempts"
  | .sessions => "sessions"
  | .evaluation => "evaluation"
  | .settlement => "settlement"
  | .records => "records"

end Area

structure OperationSchemaRef where
  kind : String
  requestSchema : SchemaRef
  outcomeSchema : SchemaRef
  lifecycle : LifecycleClass
  deriving DecidableEq

inductive RevisionAuthority
  | none | snapshot | retain | restore | discard
  deriving DecidableEq

inductive OperationNormalizationKind
  | none | scopeReopen
  deriving DecidableEq

structure ScopeReopenNormalization where
  attempt : AttemptRef
  continuationId : ContinuationId
  parkAuthority : RequestId
  resolvedCancelledJobs : List ResourceId
  deriving DecidableEq

structure OperationDescriptor extends OperationSchemaRef where
  normalization : OperationNormalizationKind
  inspect : Bool
  cancel : Bool
  watch : Bool
  resourcePool : Option PoolId
  revisionAuthority : RevisionAuthority
  deriving DecidableEq

structure OperationWire where
  schemaRef : OperationSchemaRef
  payloadJson : String
  deriving DecidableEq

structure PoolCapacity where
  poolId : PoolId
  capacity : Nat
  deriving DecidableEq

structure RequestRetries where
  limit : Nat
  backoff : Seconds
  backoffCap : Seconds
  deriving DecidableEq

namespace RequestRetries

def delay (declared : RequestRetries) (retries : Nat) : Seconds :=
  min (declared.backoff * 2 ^ (retries - 1)) declared.backoffCap

end RequestRetries

structure Limits where
  maxAttempts : Nat
  maxParallel : Nat
  poolCapacities : List PoolCapacity
  requestRetries : RequestRetries
  cancellationBound : Seconds
  cleanupBound : Seconds
  reconciliationBound : Seconds
  observeInterval : Seconds
  observeBackoffCap : Seconds
  queueWaitBudget : Seconds
  queueNoticeInterval : Seconds
  maxAdoptionRounds : Nat
  deriving DecidableEq

inductive StopMode
  | drain | cancel
  deriving DecidableEq

inductive ControlAction
  | pause | resume | stop | steer
  deriving DecidableEq

structure ControlInput where
  controlId : ControlId
  action : ControlAction
  mode : Option StopMode
  artifact : Option Payload
  deriving DecidableEq

inductive CompletionStatus
  | succeeded | failed | cancelled
  deriving DecidableEq

inductive DependencyStatus
  | pending | succeeded | failed
  deriving DecidableEq

inductive ManifestBasis
  | enumerated | lifecycleClosed
  deriving DecidableEq

structure ChildManifest where
  members : List ResourceId
  basis : ManifestBasis
  deriving DecidableEq

structure Observation where
  eventId : EventId
  requestId : RequestId
  scope : Scope
  sequence : Nat
  observedAt : Seconds
  status : ObservationStatus
  resourceId : Option ResourceId := none
  revision : Option RevisionRef := none
  accepted : Bool := false
  terminal : Bool := false
  released : Bool := false
  children : List ResourceId := []
  childrenComplete : Bool := false
  childManifest : Option ChildManifest := none
  admissionId : Option DecisionId := none
  diagnostic : String := ""
  deriving DecidableEq

namespace Observation

def descendants (observation : Observation) : List ResourceId :=
  (observation.children ++
    (observation.childManifest.map ChildManifest.members).getD []).eraseDups

def retryable (observation : Observation) : Bool :=
  !observation.terminal && observation.status.retryableFailure

end Observation

inductive SetupFailureKind
  | transient | permanent | unsupported | unknown
  deriving DecidableEq

inductive Selection
  | retainedCandidate (settlementId : SettlementId) (revision : RevisionRef)
  | trustedBaseline (revision : RevisionRef)
  deriving DecidableEq

namespace Selection

def revision : Selection → RevisionRef
  | .retainedCandidate _ revision | .trustedBaseline revision => revision

end Selection

inductive WorkspaceMode
  | exclusiveRoot | isolatedChild | readOnlyRevision
  deriving DecidableEq

structure WorkspaceRef where
  scope : Scope
  revision : RevisionRef
  mode : WorkspaceMode
  deriving DecidableEq

inductive Retention
  | discard | wip | candidate
  deriving DecidableEq

/-! ## Evidence and assessments -/

inductive EvidenceKind
  | correctness | benchmark | profiling | localValidation
  deriving DecidableEq

inductive AssessmentKind
  | correctness | benchmark | profiling | localValidation
  deriving DecidableEq

def EvidenceKind.assessment : EvidenceKind → AssessmentKind
  | .correctness => .correctness
  | .benchmark => .benchmark
  | .profiling => .profiling
  | .localValidation => .localValidation

inductive MeasurementPurpose
  | baseline | localValidation | official | profile
  deriving DecidableEq

inductive Provenance
  | trusted | selfReport
  deriving DecidableEq

structure Fingerprints where
  evaluatorDigest : String
  workloadDigest : String
  environmentDigest : String
  deriving DecidableEq

structure EvidenceKey where
  sourceRequest : RequestId
  evidenceId : EvidenceId
  deriving DecidableEq

structure EvidenceRef where
  evidenceId : EvidenceId
  kind : EvidenceKind
  purpose : MeasurementPurpose
  scope : Scope
  sourceRequest : RequestId
  candidate : RevisionRef
  observationSequence : Nat
  fingerprints : Fingerprints
  provenance : Provenance
  status : ObservationStatus
  artifacts : List Payload := []
  acceptanceReceipt : Option Observation := none
  deriving DecidableEq

namespace EvidenceRef

def key (evidence : EvidenceRef) : EvidenceKey := ⟨evidence.sourceRequest, evidence.evidenceId⟩

end EvidenceRef

inductive AssessmentVerdict
  | satisfied | rejected | deferred
  deriving DecidableEq

inductive AssessmentSource
  | invocation (source : InvocationRef)
  | evidenceKey (key : EvidenceKey)
  | evidenceId (evidenceId : EvidenceId)
  deriving DecidableEq

structure AssessmentProposal where
  kind : AssessmentKind
  verdict : AssessmentVerdict
  sources : List AssessmentSource
  candidate : Option RevisionRef
  schemaVersion : Nat
  deriving DecidableEq

structure EvidenceRequirement where
  kind : EvidenceKind
  provenance : Provenance
  purpose : Option MeasurementPurpose := none
  deriving DecidableEq

structure AssessmentAuthority where
  kind : AssessmentKind
  roleId : RoleId
  outputSchema : SchemaRef
  deriving DecidableEq

structure EvidenceRequirements where
  assessmentAuthorities : List AssessmentAuthority := []
  requiredEvidence : List EvidenceRequirement := []
  requiredAssessments : List AssessmentKind := []
  allowEmptyQueueSuccess : Bool := false
  deriving DecidableEq

structure TaskTerms where
  accuracyStage : Option String
  measured : List String
  deriving DecidableEq

namespace TaskTerms

def requiresAccuracyProof (task : TaskTerms) : Bool :=
  task.accuracyStage.any fun stage => task.measured.contains stage

end TaskTerms

inductive ReleaseDependency
  | session (identity : SessionId)
  | job (identity : ResourceId)
  | workspace (identity : RequestId)
  | operation (identity : OperationId)
  | request (identity : RequestId)
  deriving DecidableEq

inductive FailureReason
  | timedOut | workspaceClosed | ownerGone | refused | lost | invalidReply | renderFailed
  | turnFailed | waitRefused | queueBudgetSpent | outOfBudget | measurementUntrusted
  deriving DecidableEq

inductive Watch
  | whileOpen (workspace : AttemptRef)
  | whileAlive (job : ResourceId)
  deriving DecidableEq

structure Within where
  limit : Seconds
  watches : List Watch := []
  deriving DecidableEq

structure Until where
  at_ : Seconds
  watches : List Watch := []
  deriving DecidableEq

inductive UntilSpec
  | within (limit : Within)
  | inherited
  | until (stored : Until)
  | fromDispatch (limit : Seconds) (watches : List Watch)
  deriving DecidableEq

structure Failed where
  reason : FailureReason
  decision : Option DecisionId := none
  watch : Option Watch := none
  limitAt : Option Seconds := none
  cause : Option RejectionCode := none
  detail : Option Payload := none
  deriving DecidableEq

inductive WaitKind
  | session | recoveryCheck | ownedJob | releaseDependency | yieldPublication | interrupt | refund
  | dispatch | retry | turnAcquisition | blockedRecord
  deriving DecidableEq

structure WaitSubject where
  kind : WaitKind
  identity : String
  deriving DecidableEq

structure WaitOn where
  requests : List RequestId := []
  subjects : List WaitSubject := []
  timer : Option Seconds := none
  deriving DecidableEq

inductive ProgressState
  | pending | running | unknown
  deriving DecidableEq

structure JobProgress where
  observationSequence : Nat
  observedAt : Seconds
  state : ProgressState
  stageId : Option String := none
  pendingReason : Option String := none
  content : Payload
  deriving DecidableEq

inductive WaitEnd
  | limit | queueBudget | runEnd
  deriving DecidableEq

structure JobTimeout where
  resourceId : ResourceId
  progress : Option JobProgress := none
  by_ : WaitEnd
  at_ : Seconds
  deriving DecidableEq

structure TimedOut where
  deadlineAt : Seconds
  reachedAt : Seconds
  by_ : WaitEnd := .limit
  unfinished : List JobTimeout
  deriving DecidableEq

inductive MeasurementFailure
  | workload | infrastructure | ambiguous | unknown
  deriving DecidableEq

def MeasurementFailure.retryable : MeasurementFailure → Bool
  | .infrastructure | .ambiguous => true
  | .workload | .unknown => false

inductive EvaluationStageOutcome
  | passed | failed | unknown
  deriving DecidableEq

structure EvaluationStageResult where
  stageId : String
  outcome : EvaluationStageOutcome
  deriving DecidableEq

structure EvaluationTerminalFacts where
  stages : List EvaluationStageResult := []
  tracebackSignature : Option String := none
  failedBenchmark : Option Payload := none
  accuracyPassed : Bool := false
  deriving DecidableEq

inductive Access
  | readOnly | writeArtifacts | writeCandidate
  deriving DecidableEq

structure SessionSpec where
  sessionId : SessionId
  roleId : RoleId
  access : Access
  content : Payload
  deriving DecidableEq

inductive ChargeClass
  | paid | correction | resume | free
  deriving DecidableEq

inductive TurnWorkspace
  | ref (workspace : WorkspaceRef)
  | scope (scope : Scope)
  deriving DecidableEq

structure TurnSpec where
  session : SessionSpec
  invocationId : InvocationId
  continuationId : Option ContinuationId
  workspace : TurnWorkspace
  outputSchema : SchemaRef
  chargeClass : ChargeClass
  predecessor : Option InvocationRef
  content : Payload
  deriving DecidableEq

structure WorkspacePlan where
  mode : WorkspaceMode
  base : RevisionRef
  parkedPredecessor : Option AttemptRef
  deriving DecidableEq

structure AttemptBudget where
  admissionCharge : Nat
  paidInvocationLimit : Nat
  refundLimit : Nat
  deriving DecidableEq

structure MeasurementStage where
  stageId : String
  dependsOn : List String := []
  requiredOutputs : List String := []
  executionBudget : Seconds
  deriving DecidableEq

inductive MeasurementCandidate
  | revision (revision : RevisionRef)
  | snapshotResult (requestId : RequestId)
  deriving DecidableEq

namespace MeasurementCandidate

def revision? : MeasurementCandidate → Option RevisionRef
  | .revision named => some named
  | .snapshotResult _ => none

end MeasurementCandidate

structure MeasurementPlan where
  purpose : MeasurementPurpose
  candidate : MeasurementCandidate
  fingerprints : Fingerprints
  recipeDigest : String
  stages : List MeasurementStage
  accuracyStage : Option String := none
  accuracyGated : List EvidenceKind := []
  queueAllowance : Seconds
  content : Payload
  deriving DecidableEq

namespace MeasurementPlan

def timeBound (plan : MeasurementPlan) : Seconds :=
  plan.queueAllowance + (plan.stages.map MeasurementStage.executionBudget).sum

end MeasurementPlan

structure MeasurementStageIdentity where
  stageId : String
  dependsOn : List String := []
  requiredOutputs : List String := []
  deriving DecidableEq

structure MeasurementIdentity where
  purpose : MeasurementPurpose
  candidate : RevisionRef
  fingerprints : Fingerprints
  recipeDigest : String
  stages : List MeasurementStageIdentity
  accuracyStage : Option String := none
  accuracyGated : List EvidenceKind := []
  deriving DecidableEq

namespace MeasurementIdentity

def sortedSet (names : List String) : List String :=
  names.dedup.mergeSort fun left right => decide (left ≤ right)

def sortedKinds (kinds : List EvidenceKind) : List EvidenceKind :=
  [.benchmark, .correctness, .localValidation, .profiling].filter (· ∈ kinds)

def acyclic : Nat → List (String × List String) → Bool
  | 0, remaining => remaining.isEmpty
  | fuel + 1, remaining =>
    let ready := (remaining.filter fun stage => stage.2.isEmpty).map (·.1)
    remaining.isEmpty || !ready.isEmpty &&
      acyclic fuel ((remaining.filter fun stage => stage.1 ∉ ready).map fun stage =>
        (stage.1, stage.2.filter (· ∉ ready)))

def valid (identity : MeasurementIdentity) : Bool :=
  let names := identity.stages.map MeasurementStageIdentity.stageId
  identity.fingerprints.evaluatorDigest ≠ "" && identity.fingerprints.workloadDigest ≠ "" &&
    identity.fingerprints.environmentDigest ≠ "" && identity.recipeDigest ≠ "" &&
    names.all (· ≠ "") && decide names.Nodup &&
    identity.accuracyStage.all (fun stage => stage ≠ "" && stage ∈ names) &&
    (identity.accuracyGated.isEmpty || identity.accuracyStage.isSome) &&
    identity.stages.all (fun stage => decide stage.dependsOn.Nodup &&
      stage.dependsOn.all (· ∈ names)) &&
    acyclic names.length (identity.stages.map fun stage => (stage.stageId, stage.dependsOn))

def fromPlan (plan : MeasurementPlan) (candidate : RevisionRef) : Option MeasurementIdentity :=
  let projected : MeasurementIdentity :=
    { purpose := plan.purpose
      candidate := candidate
      fingerprints := plan.fingerprints
      recipeDigest := plan.recipeDigest
      stages := plan.stages.map fun stage =>
        ⟨stage.stageId, stage.dependsOn, sortedSet stage.requiredOutputs⟩
      accuracyStage := plan.accuracyStage
      accuracyGated := sortedKinds plan.accuracyGated }
  let ordered := projected.stages.mergeSort fun left right => decide (left.stageId ≤ right.stageId)
  if projected.valid then
    some { projected with
      stages := ordered.map fun stage => { stage with dependsOn := sortedSet stage.dependsOn } }
  else none

end MeasurementIdentity

inductive InputTarget
  | scope (scope : Scope)
  | item (itemId : ItemId)
  | invocation (invocation : InvocationRef)
  deriving DecidableEq

inductive InputMode
  | nextTurn | interrupt
  deriving DecidableEq

structure SessionInput where
  inputId : InputId
  target : InputTarget
  artifact : Payload
  receivedAt : Seconds
  sequence : Nat
  mode : InputMode := .nextTurn
  deriving DecidableEq

structure ReservedInputOccurrence where
  inputId : InputId
  artifact : Payload
  deriving DecidableEq

inductive RequestBody
  | ensureWorkspace (attempt : AttemptRef) (plan : WorkspacePlan)
  | restoreRevision (attempt : AttemptRef) (revision : RevisionRef)
  | snapshotAndRetain (attempt : AttemptRef) (retention : Retention)
      (invocation : Option InvocationRef)
  | retainRevision (attempt : AttemptRef) (revision : RevisionRef) (retention : Retention)
  | discardWorkspace (attempt : AttemptRef)
  | closeAttemptScope (attempt : AttemptRef)
  | ensureSession (spec : SessionSpec) (requiredResource : Option ResourceId)
  | dispatchTurn (turn : TurnSpec) (inputs : List SessionInput)
  | inspectTurn (invocation : InvocationRef) (dispatch : Option RequestId)
  | cancelTurn (invocation : InvocationRef)
  | closeSession (sessionId : SessionId) (resourceId : Option ResourceId)
      (episode : Option DecisionId)
  | resumeSessionTurn (turn : TurnSpec) (continuationId : ContinuationId)
      (inputs : List SessionInput)
  | snapshotAndRetainRun (invocation : InvocationRef) (retention : Retention)
  | submitMeasurement (plan : MeasurementPlan)
  | observeOwnedJob (resourceId : ResourceId)
  | inspectOwnedJob (resourceId : ResourceId)
  | cancelOwnedJob (resourceId : ResourceId)
  | collectEvidence (resourceId : ResourceId)
  | adoptRevision (selection : Selection)
  | verifyAdoption (selection : Selection)
  | executeRegisteredOperation (operationId : OperationId) (operation : OperationWire)
      (retryLimit : Nat) (inputs : List ReservedInputOccurrence)
  | inspectRequest (target : RequestId) (resourceId : Option ResourceId)
  | cancelOwnedResource (resourceId : ResourceId) (target : RequestId)
  | blockRequest (target : RequestId) (reason : FailureReason)
  deriving DecidableEq

structure Request where
  requestId : Option RequestId
  scope : Scope
  dependsOn : List RequestId := []
  decisionId : Option DecisionId := none
  admissionId : Option DecisionId := none
  body : RequestBody
  deriving DecidableEq

structure Outbound where
  request : Request
  until_ : UntilSpec
  deriving DecidableEq

structure Scheduled where
  request : Request
  until_ : Until
  limitFromDispatch : Option Seconds := none

def within (request : Request) (limit : Seconds) : Outbound :=
  ⟨request, .within { limit := limit }⟩

def requestLifecycle (request : Request) : LifecycleClass :=
  match request.body with
  | .executeRegisteredOperation _ operation _ _ => operation.schemaRef.lifecycle
  | .dispatchTurn .. | .resumeSessionTurn .. => .sessionTurn
  | .submitMeasurement .. => .ownedJob
  | .inspectTurn .. | .observeOwnedJob .. | .inspectOwnedJob .. | .collectEvidence ..
  | .inspectRequest .. | .verifyAdoption .. => .query
  | .ensureWorkspace .. | .restoreRevision .. | .snapshotAndRetain .. | .snapshotAndRetainRun ..
  | .retainRevision .. | .discardWorkspace .. | .closeAttemptScope .. | .ensureSession ..
  | .cancelTurn .. | .closeSession .. | .cancelOwnedJob .. | .adoptRevision ..
  | .cancelOwnedResource .. | .blockRequest .. => .idempotentWrite

inductive FailureHearer
  | decision | owningArea
  deriving DecidableEq

def failureHearer (request : Request) : FailureHearer :=
  match request.body with
  | .ensureWorkspace .. | .restoreRevision .. | .snapshotAndRetain .. | .retainRevision ..
  | .discardWorkspace .. | .closeAttemptScope .. | .ensureSession .. | .dispatchTurn ..
  | .closeSession .. | .resumeSessionTurn .. | .snapshotAndRetainRun .. | .submitMeasurement ..
  | .adoptRevision .. | .verifyAdoption .. | .executeRegisteredOperation .. => .decision
  | .observeOwnedJob .. | .inspectOwnedJob .. | .cancelOwnedJob .. | .collectEvidence ..
  | .inspectTurn .. | .cancelTurn .. | .inspectRequest .. | .cancelOwnedResource ..
  | .blockRequest .. => .owningArea

namespace RequestBody

def commandTarget? : RequestBody → Option RequestId
  | .inspectRequest target _ | .cancelOwnedResource _ target | .blockRequest target _ =>
    some target
  | _ => none

def resource? : RequestBody → Option ResourceId
  | .closeSession _ resourceId _ | .inspectRequest _ resourceId => resourceId
  | .observeOwnedJob resourceId | .inspectOwnedJob resourceId | .cancelOwnedJob resourceId
  | .collectEvidence resourceId | .cancelOwnedResource resourceId _ => some resourceId
  | _ => none

def turn? : RequestBody → Option TurnSpec
  | .dispatchTurn turn _ | .resumeSessionTurn turn _ _ => some turn
  | _ => none

end RequestBody

end VibeServeCore.Types
