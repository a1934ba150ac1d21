/- source: _request_recovery.py (owners, resolutions)
   digest: What recovery can conclude about one record from its facts and its owners. -/

import VibeServeCore.Foundation.Ledger
import VibeServeCore.Episode
import VibeServeCore.RequestForward

namespace VibeServeCore.RequestRecovery

open Types Proofs Episode Foundation.Ledger

variable (digests : Digests)

variable (child : ChildLease) (state : RecordsState) (record : RequestRecord)
  (context : RecordsContext) (observation : Observation)

def operationDecision : Option OperationDecision :=
  match record.request.body with
  | .executeRegisteredOperation .. =>
    (operationFor digests context.run.receipts record.request).value?
  | _ => none

def dispatchedTurn : Option (TurnSpec × Option OperationId) :=
  match record.request.body with
  | .dispatchTurn turn _ | .resumeSessionTurn turn _ _ => some (turn, none)
  | .executeRegisteredOperation operationId wire _ _ =>
    if wire.schemaRef.lifecycle = .sessionTurn && record.lifecycle = .sessionTurn then
      ((operationDecision digests record context).bind (·.command.registeredTurn)).map fun turn =>
        (turn, some operationId)
    else none
  | _ => none

def invocationOwner (invocation : Invocation) (observation : Observation) : Bool :=
  match dispatchedTurn digests record context with
  | none => false
  | some (turn, registered) =>
    invocationFor context.sessions.invocations (.turn turn) observation.scope =
        .proven invocation &&
      (registered.isNone || invocation.registeredOperation = registered) &&
      invocation.observation.all fun previous =>
        (observationFor record previous).isProven &&
          (previous.resourceId.isNone || previous.resourceId = observation.resourceId)

def compatibleResource (known reported : Option ResourceId) : Bool :=
  known.isNone || known = reported

def typedJobOwner (job : OwnedJob) : Bool :=
  (observationFor record observation).isProven && job.scope = observation.scope &&
    compatibleResource job.resourceId observation.resourceId &&
    (job.observation.all fun seen =>
      (observationFor record seen).isProven &&
        compatibleResource seen.resourceId observation.resourceId) &&
    match job.origin, record.request.body with
    | .measurement submissionId plan, .submitMeasurement requested =>
      submissionId = record.requestId && plan = requested
    | .registered requestId operationId resourcePool expectedMeasurement,
        .executeRegisteredOperation executed wire _ _ =>
      match operationDecision digests record context,
          descriptorMatches context.registry context.run.capabilities wire .ownedJob .none with
      | some decision, .proven descriptor =>
        descriptor.resourcePool = some resourcePool && requestId = record.requestId &&
          operationId = executed &&
          expectedMeasurement = decision.command.registeredMeasurement
      | _, _ => false
    | _, _ => false

def submissionOwner : Bool :=
  match record.request.body with
  | .submitMeasurement _ =>
    (submissionBudgetFor digests record.request context.evaluation.submissionBudgets
      context.run.receipts).isProven
  | _ => false

def consumed : Bool :=
  record.phase = .completed && observation.accepted && observation.status = .succeeded

def workspaceOwner : Bool :=
  match record.request.body with
  | .ensureWorkspace attempt plan =>
    context.attempts.attempts.any fun owner =>
      owner.attemptId = attempt.attemptId && owner.generation = attempt.generation &&
        (currentAdmission owner observation.scope record.request.admissionId).isProven &&
        owner.workspace = plan &&
        (record.requestId ∈ owner.pendingRecords ||
          (consumed record observation && owner.phase ≠ .acquiring))
  | _ => false

def sessionCreated (session : SessionView) : Bool :=
  consumed record observation && (session.phase = .acquiring || session.phase = .executing) &&
    session.resourceId.isSome && observation.resourceId = session.resourceId

def sessionOwner : Bool :=
  match record.request.body with
  | .ensureSession spec requiredResource =>
    context.sessions.sessions.any fun session =>
      session.scope = observation.scope &&
        compatibleResource session.resourceId observation.resourceId && session.spec = spec &&
        session.generation = observation.scope.generation &&
        (requiredResource.isNone || observation.resourceId = requiredResource) &&
        ((session.accepted && session.resourceId.isSome) ||
          record.requestId ∈ session.pendingRecords || sessionCreated record observation session)
  | _ => false

def knownOwner : Bool :=
  (context.evaluation.allJobs.any fun job => typedJobOwner digests record context observation job) ||
    submissionOwner digests record context || workspaceOwner record context observation ||
    sessionOwner record context observation ||
    context.sessions.invocations.any fun invocation =>
      invocationOwner digests record context invocation observation

def cleanupRequest : Bool :=
  match record.request.body with
  | .closeAttemptScope .. | .closeSession .. | .discardWorkspace .. | .retainRevision ..
  | .snapshotAndRetain .. => true
  | .executeRegisteredOperation _ wire _ _ =>
    match descriptorMatches context.registry context.run.capabilities wire record.lifecycle
        .none with
    | .proven descriptor =>
      descriptor.revisionAuthority = .snapshot || descriptor.revisionAuthority = .retain ||
        descriptor.revisionAuthority = .discard
    | _ => false
  | _ => false

def preparedEpisode : Bool :=
  let request := record.request
  let command := match request.body with
    | .cancelOwnedResource .. | .cancelTurn .. | .cancelOwnedJob .. | .blockRequest .. => true
    | _ => false
  if record.lifecycle = .query || command then true
  else
    match request.scope.owner with
    | .run runId => runId = context.run.runId && request.scope.generation = context.run.generation
    | .attempt _ =>
      match scopeAttempt context.attempts request.scope with
      | none => false
      | some owner =>
        (currentAdmission owner request.scope request.admissionId).isProven &&
          (startsWork owner.phase ||
            (cleanupRequest record context &&
              match currentClosure owner owner.closure with
              | .proven closure =>
                closure.authority = record.requestId ||
                  owner.releaseDependencies.any (edgeNames (some record.requestId) request.body)
              | _ => false))

def reopenResolved : Bool :=
  match record.request.body with
  | .executeRegisteredOperation _ wire _ _ =>
    match context.registry.filter fun row => row.kind = wire.schemaRef.kind with
    | [declared] =>
      match descriptorMatches context.registry context.run.capabilities wire record.lifecycle
          declared.normalization, operationDecision digests record context with
      | .proven descriptor, some decision =>
        descriptor.normalization ≠ .scopeReopen ||
          match record.outcome.bind (·.reopen), decision.command.normalizedScopeReopen with
          | some reopen, some normalization =>
            reopen.admission ≠ .unknown && reopen.scope = normalization.attempt.scope
          | _, _ => false
      | _, _ => false
    | _ => false
  | _ => true

def sessionResources : List ResourceId :=
  let session? := match record.request.body with
    | .ensureSession spec _ => some spec.sessionId
    | .dispatchTurn turn _ | .resumeSessionTurn turn _ _ => some turn.session.sessionId
    | .closeSession sessionId _ _ => some sessionId
    | _ => none
  match session? with
  | none => []
  | some sessionId =>
    (context.sessions.sessions.filter fun session =>
      session.spec.sessionId = sessionId && session.scope = record.request.scope &&
        session.generation = record.request.scope.generation &&
        record.requestId ∈ session.pendingRecords).filterMap (·.resourceId)

def ownsResource : Bool :=
  record.lifecycle = .ownedJob || record.lifecycle = .sessionTurn ||
    match record.request.body with
    | .ensureSession .. | .ensureWorkspace .. | .closeSession .. => true
    | _ => false

def expectedResources : List ResourceId :=
  let required := match record.request.body with
    | .ensureSession _ (some resource) => [resource]
    | _ => []
  sessionResources record context ++ required ++
    (context.sessions.invocations.filterMap (·.observation)).filterMap fun seen =>
      if seen.requestId = record.requestId && seen.scope = record.request.scope &&
          seen.admissionId = record.request.admissionId then
        seen.resourceId
      else none

def resourceIdentified : Bool :=
  if !ownsResource record then true
  else
    match observation.resourceId with
    | none => releaseNonownership observation
    | some resource => (expectedResources record context).all fun expected => expected = resource

def conclusivelyTerminal : Bool :=
  let namesOnly := !ownsResource record && observation.accepted && observation.status = .succeeded
  let refused := observation.status = .rejected && !observation.accepted &&
    observation.resourceId.isNone && observation.children.isEmpty
  let resourceFree := record.lifecycle ≠ .ownedJob && record.lifecycle ≠ .sessionTurn &&
    (observation.resourceId.isNone || namesOnly) && observation.children.isEmpty &&
    (observation.childrenComplete || namesOnly)
  observation.terminal && observation.status ≠ .pending &&
    (record.lifecycle = .query || resourceFree || refused ||
      (releasedRecord digests record).isProven)

def resolution : Resolution :=
  match record.observation with
  | none =>
    if record.phase = .prepared && preparedEpisode record context then .safePrepared else .pending
  | some observation =>
    if !(observationFor record observation).isProven || observation.status = .unknown ||
        !reopenResolved digests record context then
      .pending
    else if !resourceIdentified record context observation then .pending
    else if conclusivelyTerminal digests record observation then .terminal
    else if observation.accepted && observation.resourceId.isSome &&
        observation.childrenComplete && knownOwner digests record context observation then
      .reattached
    else .pending

def inspection (epoch : Nat) : Request where
  requestId := some ⟨"recovery:" ++ toString epoch ++ ":" ++ record.requestId.root⟩
  scope := record.request.scope
  admissionId := record.request.admissionId
  body := .inspectRequest record.requestId none

def childInspectionId (resource : ResourceId) (epoch : Nat) : RequestId :=
  ⟨"recovery:child:" ++ toString epoch ++ ":" ++ toString record.requestId.root.length ++ ":" ++
    record.requestId.root ++ ":" ++ resource.root⟩

def childInspection (resource : ResourceId) (epoch : Nat) : Request :=
  { inspection record epoch with
    requestId := some (childInspectionId record resource epoch)
    body := .inspectRequest record.requestId (some resource) }

def probe (request : Request) (context : RecordsContext) : Outbound :=
  within request context.run.limits.reconciliationBound

/-! ## Children -/

def watermarks : List ChildObservationWatermark :=
  child.observationWatermarks.foldl (upsert (·.sourceRequest)) []

def markExact (mark : ChildObservationWatermark) : Bool :=
  match state.find mark.sourceRequest with
  | [record] =>
    record.request.scope = child.scope && (observationFor record mark.observation).isProven &&
      mark.observation.resourceId = some child.resourceId
  | _ => false

def childSources : Option (List Observation) :=
  let marks := watermarks child
  if child.watermarkHistoryComplete &&
      sameIdentities (marks.map (·.sourceRequest)) child.sourceRequests &&
      marks.all (markExact child state) then
    some (marks.map (·.observation))
  else none

def childReleased : Bool :=
  (releasedChild digests child state.records).isProven

def childReady : Bool :=
  observation.requestId ∈ child.sourceRequests && observation.scope = child.scope &&
    observation.resourceId = some child.resourceId &&
    ((resolvedObservation observation).isProven ||
      (observation.status ≠ .unknown && observation.accepted && observation.childrenComplete))

def childProven : Bool :=
  match childSources child state with
  | some observations => observations.all (childReady child)
  | none => false

def childAdmissions (index : Nat) (child : ChildLease) :
    Except CoreError (List (Option DecisionId)) :=
  child.sourceRequests.mapM fun source =>
    match state.record source with
    | some record =>
      if record.request.scope = child.scope then .ok record.request.admissionId
      else .error (.contract ["children", toString index, "source_requests", source.root]
        "child requires a canonical source in its exact scope")
    | none => .error (.contract ["children", toString index, "source_requests", source.root]
        "child requires a canonical source in its exact scope")

def validateChildren : Except CoreError Unit :=
  (state.children.zipIdx).forM fun (child, index) => do
    let admissions ← childAdmissions state index child
    if admissions.eraseDups.length > 1 then
      .error (.contract ["children", toString index, "source_requests"]
        "conflicting child ownership admission episodes require distinct resource leases")
    else .ok ()

end VibeServeCore.RequestRecovery
