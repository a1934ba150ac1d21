/- source: _routing.py, _inspection.py, _step.py (`_event_cause`, `_validate_observation_ingress`)
   digest: The area of every signal, and the proofs a top-level event must carry. -/

import VibeServeCore.Episode

namespace VibeServeCore.Kernel

open Types Proofs Episode

section
variable (state : CoreState) (signal : Signal)

def signalOrder : List Area :=
  [.scheduling, .attempts, .sessions, .evaluation, .settlement, .records]

def eventArea : Signal → Area
  | .scheduling _ | .admitAttempt _ | .registerAttempt _ | .closeAdmission | .runDrained =>
    .scheduling
  | .attempts _ => .attempts
  | .sessions _ => .sessions
  | .evaluation _ => .evaluation
  | .settlement _ => .settlement
  | .records _ | .decisionCompleted .. => .records

def stateArea : AreaState → Area
  | .scheduling _ => .scheduling
  | .attempts _ => .attempts
  | .sessions _ => .sessions
  | .evaluation _ => .evaluation
  | .settlement _ => .settlement
  | .records _ => .records

def withArea : AreaState → CoreState
  | .scheduling slice => { state with scheduling := slice }
  | .attempts slice => { state with attempts := slice }
  | .sessions slice => { state with sessions := slice }
  | .evaluation slice => { state with evaluation := slice }
  | .settlement slice => { state with settlement := slice }
  | .records slice => { state with records := slice }

def signalObservation : Signal → Option Observation
  | .attempts (.revisionOperationObserved _ observation _)
  | .attempts (.workspaceObserved _ observation _)
  | .attempts (.releaseDependencyObserved _ _ observation)
  | .attempts (.scopeAdmissionReopened _ _ _ _ observation _)
  | .sessions (.turnObserved _ observation _ _ _ _)
  | .sessions (.sessionObserved _ observation _)
  | .sessions (.runInvocationCheckpointObserved _ _ observation _)
  | .evaluation (.registeredJobObserved _ observation _)
  | .evaluation (.jobObserved _ observation _ _)
  | .evaluation (.measurementSubmissionObserved observation _)
  | .evaluation (.continuationJobsChanged _ observation)
  | .evaluation (.continuationScopeReopened _ _ observation)
  | .settlement (.adoptionObserved observation _) => some observation
  | .records (.requestObserved event) => some event.observation
  | .sessions (.input event) => event.observation?
  | .attempts (.other event) | .sessions (.other event) => event.observation
  | _ => none

def signalAdmissionId : Signal → Option DecisionId
  | .scheduling (.attemptReady _ admissionId) | .scheduling (.slotReleased _ admissionId)
  | .scheduling (.slotChargeEnded _ admissionId _)
  | .scheduling (.queueEntryRetired _ admissionId)
  | .attempts (.retireRequested _ _ _ admissionId _)
  | .attempts (.attemptAdmitted admissionId _ _ _ _)
  | .attempts (.scopeReopenAdmitted _ _ admissionId) => some admissionId
  | .attempts (.other event) | .sessions (.other event) => event.admissionId
  | _ => none

def signalScope : Signal → Option Scope
  | .sessions (.runSessionsDrainRequested scope _) | .sessions (.turnRequested scope _ _)
  | .evaluation (.runJobsCancelRequested scope _) | .evaluation (.measurementRequested scope _)
  | .evaluation (.agentMeasurementRequested scope _ _ _)
  | .evaluation (.jobsDrainRequested scope _ _)
  | .records (.operationRetireRequested _ scope) => some scope
  | .attempts (.revisionOperationRequested request _ _)
  | .attempts (.scopeReopenRequested request _)
  | .sessions (.registeredTurnRequested request _ _)
  | .evaluation (.registeredJobRequested request _ _)
  | .evaluation (.continuationReopenRequested request _) => some request.scope
  | .records (.requestPrepared event) => some event.request.scope
  | .attempts (.other event) | .sessions (.other event) => event.scope
  | _ => none

def signalStamps : Signal → List Seconds
  | .scheduling (.slotChargeEnded _ _ endedAt) => [endedAt]
  | .scheduling (.clockAdvanced nowAt) => [nowAt]
  | .attempts (.retireRequested _ _ _ _ requestedAt) => [requestedAt]
  | .evaluation (.observationsDue nowAt) | .evaluation (.deadlineReached _ nowAt) => [nowAt]
  | .records (.dispatchAuthorized _ nowAt) => nowAt.toList
  | .records (.recoveryStarted _ nowAt) | .records (.reconciliationDeadline _ nowAt _)
  | .records (.retryDue _ nowAt) | .records (.reconciliationCommandLapsed _ nowAt)
  | .records (.hostRenewed _ nowAt) => [nowAt]
  | .records (.requestObserved event) =>
    (event.target.map fun target => target.observation.observedAt).toList
  | .sessions (.input event) => event.receivedAt
  | .attempts (.other event) | .sessions (.other event) => event.stamps
  | _ => []

def episodeFacts : EpisodeFacts :=
  ⟨state.run, state.attempts, state.sessions, state.records⟩

def signalAdmission (inherited : Option DecisionId) : Option DecisionId :=
  let observation := signalObservation signal
  match observation.bind fun observed => state.records.record observed.requestId with
  | some record => record.request.admissionId
  | none =>
    let explicit := (signalAdmissionId signal).or (observation.bind (·.admissionId))
    explicit.or (inherited.or ((signalScope signal).bind (scopeAdmission (episodeFacts state))))

def uniqueRecord (identity : RequestId) : Except CoreError (Option RequestRecord) :=
  match state.records.find identity with
  | [] => .ok none
  | [row] => .ok (some row)
  | _ => .error (.contract ["request_id"] "ambiguous canonical request identity")

def eventCause : Except CoreError (Option DecisionId) :=
  match signalObservation signal with
  | none => .ok none
  | some observation => do
    match ← uniqueRecord state observation.requestId with
    | none => .ok none
    | some record =>
      if !(observationFor record observation).isProven then
        .error (.contract ["observation"] "differs from canonical request scope or episode")
      else .ok record.request.decisionId

def advanceTime (stamps : List Seconds) : CoreState :=
  { state with run := { state.run with nowAt := stamps.foldl max state.run.nowAt } }

def suppliedTimes : List Seconds :=
  signalStamps signal ++ ((signalObservation signal).map (·.observedAt)).toList

end

section
variable (state : CoreState) (original : RequestRecord)

def require (condition : Bool) (path : List String) (detail : String) : Except CoreError Unit :=
  if condition then .ok () else .error (.contract path detail)

def canonicalRecord (identity : RequestId) : Except CoreError (Option RequestRecord) :=
  match state.records.find identity with
  | [] => .ok none
  | [row] => .ok (some row)
  | _ => .error (.contract ["request_id"] "requires a unique canonical request")

def submittedJobs : List OwnedJob :=
  state.evaluation.allJobs.filter fun job =>
    job.origin.submission = original.requestId && job.scope = original.request.scope

def rootResources : List ResourceId :=
  (submittedJobs state original).filterMap (·.resourceId) ++
    (original.observation.bind fun observation =>
      if (observationFor original observation).isProven then observation.resourceId
      else none).toList

def ownedDescendants : List ResourceId :=
  let jobs := submittedJobs state original
  let observations := jobs.filterMap (·.observation) ++ original.observation.toList
  ((state.records.children.filter fun child =>
      child.scope = original.request.scope &&
        child.sourceRequests.contains original.requestId).map (·.resourceId)) ++
    jobs.flatMap (·.children) ++
    (observations.filter fun observation =>
      observation.requestId = original.requestId &&
        observation.scope = original.request.scope).flatMap (·.children)

def ownsResource (resource : ResourceId) : Bool :=
  (rootResources state original ++ ownedDescendants state original).contains resource

end

section
variable (digests : Digests)

def turnMatches (state : CoreState) (original : RequestRecord) (invocation : Invocation) : Bool :=
  match original.request.body with
  | .dispatchTurn turn _ | .resumeSessionTurn turn _ _ => invocation.turn = turn
  | .executeRegisteredOperation operationId operation _ _ =>
    (operationFor digests state.run.receipts original.request).value?.any (fun decision =>
      decision.command.registeredTurn = some invocation.turn) &&
    (descriptorMatches state.registry state.run.capabilities operation .sessionTurn
      .none).isProven &&
    original.lifecycle = .sessionTurn && invocation.registeredOperation = some operationId
  | _ => false

def validateInvocation (state : CoreState) (query : InvocationRef) (original : RequestRecord) :
    Except CoreError Unit :=
  require
    ((invocationFor state.sessions.invocations (.ref query) original.request.scope).value?.any
      (turnMatches digests state original))
    ["target", "invocation"] "does not match canonical invocation owner"

def validateQuery (state : CoreState) (query : RequestBody) (target : TargetObservation)
    (original : RequestRecord) : Except CoreError Unit :=
  match query with
  | .inspectRequest inspected resource => do
    require (inspected = original.requestId) ["target", "request_id"]
      "does not match inspected request"
    require (resource = target.targetResource) ["target", "resource_id"]
      "does not match inspected child"
  | .inspectTurn invocation _ => do
    require target.targetResource.isNone ["target", "resource_id"]
      "turn inspection requires root facts"
    validateInvocation digests state invocation original
  | .inspectOwnedJob resource =>
    require (some resource = target.observation.resourceId && ownsResource state original resource)
      ["target", "resource_id"] "does not match canonical job owner"
  | _ => .error (.contract ["target"] "target facts require a recorded inspection request")

def validateChild (state : CoreState) (target : TargetObservation) (original : RequestRecord) :
    Except CoreError Unit :=
  let roots := rootResources state original
  match target.targetResource, target.observation.resourceId with
  | some resource, observed =>
    require (observed = some resource && !roots.contains resource &&
        ownsResource state original resource)
      ["target", "resource_id"] "child lacks canonical ownership proof"
  | none, some observed => do
    require (roots.isEmpty || roots.contains observed) ["target", "resource_id"]
      "root facts name a different owned resource"
    require (!(ownedDescendants state original).contains observed) ["target", "target_resource"]
      "descendant facts require the child discriminator"
  | none, none => .ok ()

def isInspection : RequestBody → Bool
  | .inspectRequest .. | .inspectTurn .. | .inspectOwnedJob .. => true
  | _ => false

def validateInspectionTarget (state : CoreState) (event : RequestObserved)
    (target : TargetObservation) : Except CoreError Unit := do
  let query ← canonicalRecord state event.observation.requestId
  let original ← canonicalRecord state target.observation.requestId
  match query.filter fun row => isInspection row.request.body with
  | none => .error (.contract ["target"] "target facts require a recorded inspection request")
  | some query =>
    match original.filter fun row => (observationFor row target.observation).isProven with
    | none => .error (.contract ["target", "scope"]
        "target requires its canonical request scope and episode")
    | some original =>
      require ((observationFor query event.observation).isProven &&
          query.request.scope = original.request.scope)
        ["target", "scope"] "inspection and target scope or episode differs"
      validateQuery digests state query.request.body target original
      validateChild state target original

end

def reportsOutcome (facts : Facts) : Bool :=
  facts.outcome.isSome || facts.operationSchema.isSome || facts.outcomeSchema.isSome ||
    facts.outcomeJson.isSome

def differingField (observation : Observation) (original : RequestRecord) : String :=
  if observation.scope ≠ original.request.scope then "scope" else "admission_id"

def validateOwner (state : CoreState) (facts : Facts) (path : List String) :
    Except CoreError Unit := do
  let original ← canonicalRecord state facts.observation.requestId
  match original with
  | some record =>
    require (observationFor record facts.observation).isProven
      (path ++ [differingField facts.observation record])
      "differs from canonical request scope or episode"
  | none => .ok ()
  match facts.operationSchema with
  | none => .ok ()
  | some schema =>
    require
      (original.any fun record =>
        match record.request.body with
        | .executeRegisteredOperation _ operation _ _ => schema = operation.schemaRef
        | _ => false)
      path "registered outcome differs from canonical operation descriptor"

def validateRegisteredOwner (state : CoreState) (event : RequestObserved) :
    Except CoreError Unit := do
  validateOwner state event.toFacts ["outcome"]
  match event.target with
  | none => .ok ()
  | some target => validateOwner state target.toFacts ["target", "outcome"]

def validateObservationIngress (digests : Digests) (state : CoreState) (event : RequestObserved) :
    Except CoreError Unit := do
  require (!reportsOutcome event.toFacts || event.outcomeIsRegistered) ["outcome"]
    "registered observation outcome proof required"
  match event.target with
  | none => .ok ()
  | some target => do
    require (!reportsOutcome target.toFacts || target.outcomeIsRegistered) ["target", "outcome"]
      "registered target outcome proof required"
    validateInspectionTarget digests state event target
  validateRegisteredOwner state event

/-! ## Dispatch authority -/

variable (digests : Digests)

def registeredSessionTurn (state : CoreState) (request : Request) (operation : OperationWire) :
    Except CoreError TurnSpec :=
  let declared := (descriptorMatches state.registry state.run.capabilities operation .sessionTurn
    .none).isProven
  match ((operationFor digests state.run.receipts request).value?.bind
      (·.command.normalizedTurn)).filter fun _ => declared with
  | some turn => .ok turn
  | none => .error (.contract ["decision_id"]
      "registered session dispatch requires canonical turn proof")

def builtinSessionTurn (state : CoreState) (request : Request) (turn : TurnSpec) :
    Except CoreError TurnSpec := do
  let owned := (acceptedReceiptFor digests state.run.receipts request.decisionId none).value?.any
    fun receipt =>
      receipt.feedback.decisionId = receipt.decisionId &&
      request.requestId.any (receipt.requestIds.contains ·) &&
      receipt.decision = some (.work ⟨receipt.decisionId, request.scope, .requestTurn turn⟩)
  require owned ["decision_id"] "builtin session dispatch requires canonical turn proof"
  return turn

def dispatchedTurn (state : CoreState) (request : Request) :
    Except CoreError (Option TurnSpec) :=
  match request.body with
  | .dispatchTurn turn _ | .resumeSessionTurn turn _ _ =>
    (builtinSessionTurn digests state request turn).map some
  | .executeRegisteredOperation _ operation _ _ =>
    if operation.schemaRef.lifecycle = .sessionTurn then
      (registeredSessionTurn digests state request operation).map some
    else .ok none
  | _ => .ok none

variable (state : CoreState) (request : Request) (turn : TurnSpec)

def exhausted (attempts : AttemptsState) (scope : Scope) : Bool :=
  attempts.attempts.any fun row =>
    scope.owner = .attempt row.attemptId && row.generation = scope.generation &&
      row.terminalReason.isSome

def coversPrefix (history : AttemptEvaluationHistory) (cursor : EvaluationHistoryCursor) : Bool :=
  cursor.ordinal ≤ history.coveredSubmissions.length &&
    (cursor.ordinal = 0 ||
      history.coveredSubmissions[cursor.ordinal - 1]? = cursor.submissionId)

def validateAttemptResume (preceding : Invocation) (published : Option EvaluationHistoryCursor) :
    Except CoreError Unit := do
  let owner := state.attempts.attempts.find? fun row =>
    request.scope.owner = .attempt row.attemptId && row.generation = request.scope.generation
  match owner.filter fun row => row.evaluationHistory.availability = .complete &&
      !exhausted state.attempts request.scope with
  | none => .error (.contract ["evaluation_history"]
      "resume requires complete unexhausted attempt history")
  | some owner =>
    match preceding.evaluationPrefix.filter (coversPrefix owner.evaluationHistory) with
    | none => .error (.contract ["evaluation_prefix"]
        "attempt resume requires exact paid-cycle history prefix")
    | some start =>
      require
        (published.any fun cursor =>
          start.ordinal ≤ cursor.ordinal && coversPrefix owner.evaluationHistory cursor)
        ["authorization_receipt", "history_cursor"]
        "resume requires exact publication history prefix after paid-cycle start"

def validateResumeOwner (preceding : Invocation) (published : Option EvaluationHistoryCursor) :
    Except CoreError Unit :=
  if request.scope.owner.isAttempt then validateAttemptResume state request preceding published
  else do
    require (request.scope = ⟨.run state.run.runId, state.run.generation⟩) ["scope"]
      "resume requires current run generation"
    require
      (turn.session.access ≠ .writeCandidate || state.sessions.runCheckpoints.any fun proof =>
        proof.scope = request.scope && proof.invocation = preceding.invocation)
      ["run_checkpoints"] "run writer resume requires exact predecessor checkpoint"

def resumes : RequestBody → Option ContinuationId
  | .resumeSessionTurn _ continuationId _ => some continuationId
  | _ => none

def successorProven (successor : InvocationRef) (continuation : Continuation)
    (preceding : Invocation) (receipt : ResumeAuthorizationReceipt) : Bool :=
  preceding.scope = request.scope && preceding.turn.session = turn.session &&
    continuation.invocation.sessionId = successor.sessionId &&
    continuation.invocation ≠ successor &&
    some receipt.continuationId = turn.continuationId && receipt.nextInvocation = successor &&
    receipt.timeout = continuation.timeout && continuation.nextInvocation = successor &&
    continuation.invocation.generation = request.scope.generation &&
    (continuation.phase = .authorized || continuation.phase = .resumed) &&
    (resumes request.body).all fun named => some named = turn.continuationId

def validateResume : Except CoreError Unit :=
  let continuation := state.evaluation.continuations.find? fun row =>
    some row.continuationId = turn.continuationId
  let preceding := continuation.bind fun row =>
    state.sessions.invocations.find? fun invocation => invocation.invocation = row.invocation
  let successor : InvocationRef :=
    { sessionId := turn.session.sessionId, invocationId := turn.invocationId
      generation := request.scope.generation }
  match continuation, continuation.bind (·.authorizationReceipt), preceding with
  | some continuation, some receipt, some preceding => do
    require (successorProven request turn successor continuation preceding receipt)
      ["authorization_receipt"] "resume requires exact published successor proof"
    validateResumeOwner state request turn preceding receipt.historyCursor
  | _, _, _ => .error (.contract ["authorization_receipt"]
      "resume requires exact published successor proof")

def validateResumeAuthority : Except CoreError Unit := do
  match ← dispatchedTurn digests state request with
  | none => .ok ()
  | some turn =>
    if turn.chargeClass ≠ .resume then
      require (resumes request.body).isNone ["turn", "charge_class"]
        "resume request requires resume charge"
    else validateResume state request turn

def validateAuthorization (requestId : RequestId) : Except CoreError Unit := do
  match ← uniqueRecord state requestId with
  | none => .error (.contract ["dependency"]
      "dispatch requires successful dependency completion")
  | some record =>
    require
      (state.records.recovery.phase = .ready || retirementDispatch record.request ||
        registeredRetirement digests (episodeFacts state) record.request)
      ["recovery"] "ordinary dispatch requires ready recovery"
    require
      (requestDependencyStatus digests record.request state.run.receipts state.records = .succeeded)
      ["dependency"] "dispatch requires successful dependency completion"
    require (dispatchEpisodeCurrent digests (episodeFacts state) record.request) ["admission_id"]
      "ordinary mutation requires the current owned admission episode"
    validateResumeAuthority digests state record.request

def validateIngress : CoreEvent → Except CoreError Unit
  | .area (.records (.requestObserved event)) => validateObservationIngress digests state event
  | .area (.records (.dispatchAuthorized requestId _)) =>
    validateAuthorization digests state requestId
  | _ => .ok ()

end VibeServeCore.Kernel
