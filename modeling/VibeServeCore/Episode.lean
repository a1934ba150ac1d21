/- source: _dispatch_episode.py, _session_scope.py
   digest: Whether a prepared request still acts in the episode that prepared it. -/

import VibeServeCore.Proofs

namespace VibeServeCore.Episode

open Types Proofs

def encodeIdentity (namespace_ : String) (components : List String) : String :=
  namespace_ ++ ":" ++
    ":".intercalate (components.map fun part => toString part.length ++ ":" ++ part)

def turnRequestId (ref : InvocationRef) (action : String) : RequestId :=
  ⟨encodeIdentity "invocation"
    [ref.sessionId.root, toString ref.generation, ref.invocationId.root, action]⟩

def lostTurnAuthority (ref : InvocationRef) : RequestId := turnRequestId ref "lost"

def lostTurnCancellation (ref : InvocationRef) : RequestId :=
  turnRequestId ref ("cancel:" ++ (lostTurnAuthority ref).root)

/-! ## Episodes -/

structure EpisodeFacts where
  run : RunState
  attempts : AttemptsState
  sessions : SessionsState
  records : RecordsState

def scopeAttempt (attempts : AttemptsState) (scope : Scope) : Option AttemptView :=
  attempts.attempts.find? fun attempt =>
    scope.owner = .attempt attempt.attemptId && attempt.generation = scope.generation

def scopeAdmission (state : EpisodeFacts) (scope : Scope) : Option DecisionId :=
  (scopeAttempt state.attempts scope).bind (·.admissionId)

def retirementDispatch (request : Request) : Bool :=
  match request.body with
  | .inspectRequest .. | .inspectTurn .. | .inspectOwnedJob .. | .observeOwnedJob ..
  | .cancelOwnedResource .. | .cancelTurn .. | .cancelOwnedJob .. | .blockRequest .. => true
  | _ => false

def closureAttempt? (request : Request) : Option AttemptRef :=
  match request.body with
  | .closeAttemptScope attempt | .discardWorkspace attempt | .retainRevision attempt _ _
  | .snapshotAndRetain attempt _ _ => some attempt
  | _ => none

variable (digests : Digests) (state : EpisodeFacts) (request : Request)

def episodeRecorded : Bool :=
  match request.scope.owner with
  | .run _ => true
  | .attempt attemptId =>
    let target : AttemptRef := ⟨attemptId, request.scope.generation⟩
    match acceptedReceiptFor digests state.run.receipts request.admissionId none with
    | .proven receipt =>
      match receipt.decision with
      | some (.work ⟨_, scope, .startAttempt started _ _ _ _⟩) =>
        scope.owner = .run state.run.runId && started = target.attemptId &&
          scope.generation = target.generation
      | some (.work ⟨_, scope, .operation command⟩) =>
        scope.owner = .run state.run.runId &&
          command.normalizedScopeReopen.any fun reopen => reopen.attempt = target
      | _ => false
    | _ => false

def retirementTargetMatches (decision : Command) : Bool :=
  episodeRecorded digests state request &&
    match decision with
    | .finish stop => committedStop digests state.run = .proven stop
    | .work ⟨_, _, .withdraw (.attempt target) _⟩ =>
      request.scope = target.scope && (closureAttempt? request).all fun attempt => attempt = target
    | .work ⟨_, _, .withdraw (.invocation target) _⟩ =>
      state.sessions.invocations.any fun row =>
        row.invocation = target && row.scope = request.scope
    | .work ⟨_, _, .withdraw (.operation target) _⟩ =>
      state.records.records.any fun row =>
        match row.request.body with
        | .executeRegisteredOperation operationId _ _ _ =>
          operationId = target.operationId && row.request.scope = request.scope
        | _ => false
    | _ => false

def sessionRetirementMatches (sessionId : SessionId) : Bool :=
  (!request.scope.owner.isAttempt || scopeAdmission state request.scope = request.admissionId) &&
    state.sessions.sessions.any fun session =>
      session.spec.sessionId = sessionId && session.scope = request.scope

def edgeNames (requestId : Option RequestId) (body : RequestBody) (edge : ReleaseDependency) : Bool :=
  match edge with
  | .request identity | .workspace identity => some identity = requestId
  | .session identity =>
    match body with
    | .closeSession sessionId _ _ => identity = sessionId
    | _ => false
  | .operation identity =>
    match body with
    | .executeRegisteredOperation operationId _ _ _ => identity = operationId
    | _ => false
  | .job _ => false

def closureRetirement : Bool :=
  match request.scope.owner with
  | .run _ => false
  | .attempt attemptId =>
    let target : AttemptRef := ⟨attemptId, request.scope.generation⟩
    match scopeAttempt state.attempts request.scope with
    | none => false
    | some owner =>
      match owner.closure with
      | none => false
      | some closure =>
        some closure.admissionId = request.admissionId &&
          ((closureAttempt? request).all fun attempt => attempt = target) &&
          (request.requestId = some closure.authority ||
            owner.releaseDependencies.any (edgeNames request.requestId request.body))

def registeredRetirement : Bool :=
  let kind := match request.body with
    | .executeRegisteredOperation _ wire _ _ => decide (wire.schemaRef.lifecycle = .idempotentWrite)
    | .closeAttemptScope .. | .closeSession .. | .discardWorkspace .. | .retainRevision ..
    | .snapshotAndRetain .. => true
    | _ => false
  let decisionAuthority :=
    match acceptedReceiptFor digests state.run.receipts request.decisionId none with
    | .proven receipt =>
      receipt.decision.any fun decision => retirementTargetMatches digests state request decision
    | _ => false
  let episode := match request.body with
    | .executeRegisteredOperation .. | .snapshotAndRetain .. | .discardWorkspace ..
    | .closeSession .. =>
      !request.scope.owner.isAttempt || scopeAdmission state request.scope = request.admissionId
    | _ => true
  let session := match request.body with
    | .closeSession sessionId _ _ => sessionRetirementMatches state request sessionId
    | _ => true
  kind && (decisionAuthority || closureRetirement state request) && episode && session

def startsWork (phase : AttemptPhase) : Bool := phase = .acquiring || phase = .active

def dispatchEpisodeCurrent : Bool :=
  !request.scope.owner.isAttempt || requestLifecycle request = .query ||
    retirementDispatch request || registeredRetirement digests state request ||
    match scopeAttempt state.attempts request.scope with
    | none => false
    | some owner =>
      (currentAdmission owner request.scope request.admissionId).isProven && startsWork owner.phase

def inspectionMoot (target : RequestId) : Bool :=
  match state.records.record target with
  | none => false
  | some row =>
    row.phase = .completed && row.observation.any fun observation =>
      observation.status = .cancelled && !observation.accepted && observation.terminal &&
        observation.released

def episodeEnded : Bool :=
  state.records.recovery.phase = .ready &&
    match request.body with
    | .inspectRequest target _ => inspectionMoot state target
    | .closeAttemptScope .. | .closeSession .. | .discardWorkspace .. | .retainRevision ..
    | .snapshotAndRetain .. => false
    | _ => !dispatchEpisodeCurrent digests state request

end VibeServeCore.Episode
