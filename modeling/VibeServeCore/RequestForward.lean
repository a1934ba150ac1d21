/- source: _request_forward.py
   digest: The owner events of one fresh observation of a canonical request. -/

import VibeServeCore.Proofs

namespace VibeServeCore.RequestForward

open Types Proofs

variable (context : RecordsContext) (record : RequestRecord) (facts : Facts)

def validateSetupFailure (observation : Observation) (failure : SetupFailureKind) :
    Except CoreError Unit :=
  if failure ≠ .unknown && !(observation.terminal && observation.status.retryableFailure) then
    .error (.validation "setup_failure" "requires terminal setup failure")
  else .ok ()

def validateJobFacts : Except CoreError Unit :=
  if facts.progress.any fun progress =>
      progress.observationSequence ≠ facts.observation.sequence ||
        progress.observedAt ≠ facts.observation.observedAt then
    .error (.validation "progress" "sequence/time differs from observation")
  else if facts.evaluationResult.isSome &&
      (!facts.observation.accepted || !facts.observation.terminal ||
        facts.observation.status = .pending || facts.observation.status = .unknown) then
    .error (.validation "evaluation_result"
      "requires accepted conclusive terminal observation")
  else .ok ()

def validateRunCheckpoint (invocation : InvocationRef) (observation : Observation) :
    Except CoreError Unit :=
  if observation.scope.owner.isAttempt then
    .error (.validation "scope.owner" "requires run ownership")
  else if observation.scope.generation ≠ invocation.generation then
    .error (.validation "invocation.generation" "differs from scope")
  else if observation.admissionId.isSome then
    .error (.validation "observation.admission_id" "run checkpoint has no admission")
  else .ok ()

def declaration (context : RecordsContext) (wire : OperationWire) :
    Except CoreError OperationDescriptor :=
  match context.registry.filter fun row => row.kind = wire.schemaRef.kind with
  | [row] =>
    match descriptorMatches context.registry context.run.capabilities wire wire.schemaRef.lifecycle
        row.normalization with
    | .proven descriptor => .ok descriptor
    | _ => .error (.contract ["operation"] "requires an exact offered declaration")
  | _ => .error (.contract ["operation", "kind"] "unregistered or ambiguous operation")

def recordsOwn (descriptor : OperationDescriptor) : Bool :=
  (descriptor.lifecycle = .query || descriptor.lifecycle = .idempotentWrite) &&
    descriptor.revisionAuthority = .none && descriptor.normalization ≠ .scopeReopen

def invocation (context : RecordsContext) (record : RequestRecord) :
    Except CoreError InvocationRef :=
  let matches_ := context.sessions.invocations.filter fun row =>
    match record.request.body with
    | .executeRegisteredOperation operationId _ _ _ =>
      row.registeredOperation = some operationId && row.scope = record.request.scope
    | .dispatchTurn turn _ | .resumeSessionTurn turn _ _ =>
      row.turn = turn && row.scope = record.request.scope
    | _ => false
  match matches_ with
  | [row] => .ok row.invocation
  | _ => .error (.contract ["request_id"] "turn observation needs one canonical invocation")

def turnOf : Except CoreError (Option InvocationRef) :=
  match record.request.body with
  | .dispatchTurn .. | .resumeSessionTurn .. => (invocation context record).map some
  | .executeRegisteredOperation .. =>
    if record.lifecycle = .sessionTurn then (invocation context record).map some else .ok none
  | _ => .ok none

/-! ## Owner events -/

def outputSchema : Option SchemaRef :=
  match facts.outcomeSchema with
  | some schema => some schema
  | none => facts.operationSchema.map (·.outcomeSchema)

def receiptReopen (receipts : List DecisionReceipt) (decisionId : Option DecisionId) :
    Option ScopeReopenNormalization :=
  match receipts.find? fun row => some row.decisionId = decisionId with
  | some receipt =>
    match receipt.decision with
    | some (.work ⟨_, _, .operation command⟩) => command.normalizedScopeReopen
    | _ => none
  | none => none

def reopened (request : Request) (operationId : OperationId) (facts : Facts) :
    Except CoreError (List Signal) :=
  match receiptReopen context.run.receipts request.decisionId with
  | none => .error (.contract ["operation"] "scope reopen requires its canonical normalization")
  | some normalization =>
    let observation := facts.observation
    let reported : ReopenAdmission :=
      match facts.outcome.bind (·.reopen) with
      | some reopen => reopen.admission
      | none => .unknown
    let admission : ReopenAdmission :=
      if observation.status ≠ .succeeded || !observation.terminal then
        if !observation.terminal then .unknown else .closed
      else reported
    .ok [.attempts (.scopeAdmissionReopened normalization.attempt normalization.continuationId
      normalization.parkAuthority operationId observation admission)]

def jobFacts : JobFacts :=
  { progress := facts.progress, evidence := facts.evidence
    evaluationResult := facts.evaluationResult }

def registered (operationId : OperationId) (wire : OperationWire) (facts : Facts) :
    Except CoreError (List Signal) := do
  let descriptor ← declaration context wire
  if descriptor.normalization = .scopeReopen then
    reopened context record.request operationId facts
  else if descriptor.revisionAuthority ≠ .none then
    .ok [.attempts (.revisionOperationObserved operationId facts.observation facts.revision)]
  else
    match descriptor.lifecycle with
    | .sessionTurn =>
      let turn ← invocation context record
      .ok [.sessions (.turnObserved turn facts.observation facts.suspension (outputSchema facts)
        facts.outcomeJson facts.replyErrors)]
    | .ownedJob =>
      let _ ← validateJobFacts facts
      .ok [.evaluation (.registeredJobObserved operationId facts.observation (jobFacts facts))]
    | .query | .idempotentWrite => .ok []

def releases (observation : Observation) : List Signal :=
  if !observation.terminal then []
  else
    (context.attempts.attempts.filter fun owner => owner.closure.isSome).flatMap fun owner =>
      (owner.releaseDependencies.filter fun edge =>
        edge = .request record.requestId || edge = .workspace record.requestId).map fun edge =>
          .attempts (.releaseDependencyObserved owner.ref edge observation)

def jobObserved (resourceId : ResourceId) (facts : Facts) : Except CoreError (List Signal) := do
  let _ ← validateJobFacts facts
  .ok [.evaluation (.jobObserved (facts.observation.resourceId.getD resourceId) facts.observation
    (jobFacts facts) none)]

def sessionObserved (sessionId : SessionId) (facts : Facts) : Except CoreError (List Signal) := do
  let _ ← validateSetupFailure facts.observation facts.setupFailure
  .ok [.sessions (.sessionObserved sessionId facts.observation facts.setupFailure)]

def turnObserved (context : RecordsContext) (record : RequestRecord) (facts : Facts) :
    Except CoreError (List Signal) := do
  if replyOwed facts.observation facts then .ok []
  else
    let turn ← invocation context record
    .ok [.sessions (.turnObserved turn facts.observation facts.suspension facts.outcomeSchema
      facts.outcomeJson facts.replyErrors)]

def ownerSignal : Except CoreError (List Signal) :=
  match record.request.body with
  | .executeRegisteredOperation operationId wire _ _ =>
    registered context record operationId wire facts
  | .ensureWorkspace attempt _ | .restoreRevision attempt _ | .snapshotAndRetain attempt _ _
  | .retainRevision attempt _ _ | .discardWorkspace attempt | .closeAttemptScope attempt =>
    .ok [.attempts (.workspaceObserved attempt facts.observation facts.revision)]
  | .ensureSession spec _ => sessionObserved spec.sessionId facts
  | .closeSession sessionId _ _ => sessionObserved sessionId facts
  | .dispatchTurn .. | .resumeSessionTurn .. => turnObserved context record facts
  | .snapshotAndRetainRun invocation _ => do
    let _ ← validateRunCheckpoint invocation facts.observation
    .ok [.sessions (.runInvocationCheckpointObserved invocation facts.observation.requestId
      facts.observation facts.revision)]
  | .submitMeasurement _ =>
    .ok [.evaluation (.measurementSubmissionObserved facts.observation facts.measurementFailure)]
  | .observeOwnedJob resourceId | .inspectOwnedJob resourceId | .collectEvidence resourceId
  | .cancelOwnedJob resourceId => jobObserved resourceId facts
  | .adoptRevision _ | .verifyAdoption _ =>
    .ok [.settlement (.adoptionObserved facts.observation facts.revision)]
  | .inspectTurn .. | .cancelTurn .. | .inspectRequest .. | .cancelOwnedResource ..
  | .blockRequest .. => .ok []

def ownerSignals : Except CoreError (List Signal) := do
  let signals ← ownerSignal context record facts
  .ok (signals ++ releases context record facts.observation)

end VibeServeCore.RequestForward
