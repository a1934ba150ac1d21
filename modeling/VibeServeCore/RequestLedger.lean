/- source: _request_ledger.py
   digest: The ledger of every authorized request: dispatch, observation, retry, completion. -/

import VibeServeCore.Foundation.Ledger
import VibeServeCore.Foundation.Process
import VibeServeCore.Clock
import VibeServeCore.Episode
import VibeServeCore.RequestForward

namespace VibeServeCore.RequestLedger

open Types Proofs Clock Episode Foundation.Ledger Foundation.Process
open RequestForward (declaration recordsOwn ownerSignals)

abbrev Change := AreaChange RecordsState

def unique (state : RecordsState) (identity : RequestId) :
    Except CoreError (Option RequestRecord) :=
  match state.find identity with
  | [] => .ok none
  | [row] => .ok (some row)
  | _ => .error (.contract ["request_id", identity.root] "ambiguous canonical request identity")

def replace (state : RecordsState) (record : RequestRecord) : RecordsState :=
  { state with records := overwrite (·.requestId) record state.records }

def conclusiveStatus : ObservationStatus → Bool
  | .succeeded | .failed | .rejected | .cancelled => true
  | .pending | .unknown => false

def conclusive (observation : Observation) : Bool :=
  observation.terminal && conclusiveStatus observation.status

def replayable : LifecycleClass → Bool
  | .query | .idempotentWrite => true
  | .ownedJob | .sessionTurn => false

def completionOf : ObservationStatus → CompletionStatus
  | .succeeded => .succeeded
  | .cancelled => .cancelled
  | .failed | .rejected | .pending | .unknown => .failed

section
variable (digests : Digests) (state : RecordsState) (context : RecordsContext)
  (event : RequestPrepared)

def routeOperation (wire : OperationWire) : Except CoreError Change := do
  let descriptor ← declaration context wire
  if descriptor.normalization = .scopeReopen then
    .error (.contract ["operation"] "scope reopen enters through its own guarded event")
  else if descriptor.revisionAuthority ≠ .none then
    .ok { state := state, signals := [.attempts (.revisionOperationRequested event.request
      descriptor.revisionAuthority event.until_)] }
  else if descriptor.lifecycle = .sessionTurn then
    match event.normalizedTurn with
    | none =>
      .error (.contract ["normalized_turn"] "registered turn requires its normalization")
    | some turn =>
      .ok { state := state, signals :=
        [.sessions (.registeredTurnRequested event.request turn event.until_)] }
  else
    match descriptor.resourcePool with
    | some pool =>
      .ok { state := state, signals :=
        [.evaluation (.registeredJobRequested event.request pool event.normalizedMeasurement)] }
    | none =>
      .ok { state, requests := [⟨event.request, fromDispatch context.run event.until_⟩] }

def routeProposal : Except CoreError Change :=
  match event.request.body with
  | .executeRegisteredOperation _ wire _ _ => routeOperation state context event wire
  | _ => .ok { state, requests := [⟨event.request, fromDispatch context.run event.until_⟩] }

def prepared : Except CoreError Change := do
  if requestLifecycle event.request ≠ event.lifecycle then
    .error (.contract ["lifecycle"] "differs from the canonical request class")
  else
    match event.request.requestId with
    | none => routeProposal state context event
    | some requestId =>
      let previous ← unique state requestId
      match previous with
      | none => routeProposal state context event
      | some row =>
        if row.payloadDigest ≠ digests.request event.request then
          .error (.contract ["request_id"] "request identity conflict")
        else .ok { state := state }

end

section
variable (state : RecordsState) (context : RecordsContext) (record : RequestRecord)
  (previous observation : Observation)

def dispatchedRecord : RequestRecord :=
  let updated := { record with phase := .dispatched, dispatchedIn := some state.recovery.epoch }
  match record.limitFromDispatch, record.dispatchedAt with
  | some limit, none =>
    { updated with
      until_ := startedUntil context.run limit record.until_.watches
      dispatchedAt := some context.run.nowAt }
  | _, _ => updated

def dispatched (state : RecordsState) (context : RecordsContext) (requestId : RequestId) :
    Except CoreError Change := do
  let found ← unique state requestId
  match found with
  | none => .error (.contract ["request_id"] "dispatch names no canonical request")
  | some record =>
    if record.phase = .dispatched then .ok { state := state }
    else if record.phase = .prepared ||
        (record.phase = .reconciling && replayable record.lifecycle) then
      .ok { state := replace state (dispatchedRecord state context record) }
    else .error (.contract ["phase"] (record.phase.text ++ " request cannot be dispatched"))

def agrees (closed later : Observation) : Bool :=
  later.accepted = closed.accepted && later.resourceId = closed.resourceId &&
    (later.status = .unknown || later.status = closed.status ||
      (later.status.retryableFailure && closed.status.retryableFailure))

def addedChildren : List ResourceId :=
  observation.children.filter fun child => child ∉ previous.children

def provenObservation : Observation :=
  { previous with
    eventId := observation.eventId, sequence := observation.sequence
    observedAt := observation.observedAt, released := previous.released || observation.released
    children := previous.children ++ addedChildren previous observation
    childrenComplete := previous.childrenComplete || observation.childrenComplete }

def provesMore : Bool :=
  !(addedChildren previous observation).isEmpty ||
    (observation.released && !previous.released) ||
    (observation.childrenComplete && !previous.childrenComplete)

def refine : Except CoreError Change :=
  match record.observation with
  | none => .error (.closedRecord record.requestId)
  | some previous =>
    if observation.status = .unknown && observation.accepted ≠ previous.accepted then
      -- An executor that cannot say claims nothing, so nothing is contradicted or proven.
      .ok { state := state }
    else if !agrees previous observation then .error (.closedRecord record.requestId)
    else if !provesMore previous observation then .ok { state := state }
    else
      let updated :=
        { record with
          observation := some (provenObservation previous observation)
          sequence := some observation.sequence }
      .ok { state := replace state updated }

def retryLimit : Nat :=
  match record.request.body with
  | .executeRegisteredOperation _ _ limit _ => limit
  | _ => context.run.limits.requestRetries.limit

def nextPhase : RequestPhase × Nat :=
  if conclusive observation && !(observation.status = .succeeded && !observation.accepted) then
    (.completed, record.retryCount)
  else if observation.status = .unknown || observation.terminal then
    -- Unknown, or success whose acceptance is unproven: inspect before any retry.
    (.reconciling, record.retryCount)
  else if observation.retryable then (.dispatched, record.retryCount + 1)
  else (.dispatched, record.retryCount)

def exhaustedMark : String := "retries-exhausted:"

def exhausted (facts : Facts) : Facts :=
  let observation := facts.observation
  if !observation.retryable || record.retryCount + 1 ≤ retryLimit context record then facts
  else
    { observation :=
        { observation with
          eventId := ⟨exhaustedMark ++ record.requestId.root⟩, sequence := observation.sequence + 1
          accepted := false, terminal := true, released := true, childrenComplete := true } }

def storeFacts (facts : Facts) (phase : RequestPhase) (retries : Nat) (retryAt : Option Seconds) :
    RequestRecord :=
  let updated :=
    { record with
      phase, retryCount := retries, retryAt, sequence := some facts.observation.sequence
      observation := some facts.observation, setupFailure := facts.setupFailure
      evaluationResult := facts.evaluationResult, suspension := facts.suspension }
  match facts.outcome, facts.operationSchema with
  | some outcome, some schema =>
    { updated with
      outcomeSchema := some schema.outcomeSchema
      outcomeJson := facts.outcomeJson
      outcome := some outcome
      outcomeProof := if facts.outcomeIsRegistered then some ⟨outcome, schema⟩ else record.outcomeProof }
  | _, _ => updated

def blockTarget : Except CoreError RecordsState :=
  match record.request.body with
  | .blockRequest targetId _ =>
    if record.observation.any fun observation => observation.status = .succeeded then do
      let found ← unique state targetId
      match found with
      | none => .ok state
      | some target =>
        if target.phase = .completed then .ok state
        else .ok (replace state { target with phase := .blocked })
    else .ok state
  | _ => .ok state

end

section
variable (digests : Digests) (context : RecordsContext) (state : RecordsState)
  (requestId : RequestId) (operation : OperationRef) (scope : Scope) (record : RequestRecord)

def completable : Except CoreError Bool :=
  match record.request.body with
  | .cancelOwnedResource .. => .ok true
  | .executeRegisteredOperation _ wire _ _ => (declaration context wire).map recordsOwn
  | _ => .ok false

def completionSignal (decisionId : DecisionId) (status : CompletionStatus) : List Signal :=
  match acceptedReceiptFor digests context.run.receipts (some decisionId) none with
  | .proven receipt =>
    if receipt.completion.isSome then [] else [.decisionCompleted receipt.decisionId status]
  | _ => []

def operationResult (record : RequestRecord) (facts : Facts) : List StrategyEvent :=
  match record.request.body, facts.operationSchema, facts.outcome with
  | .executeRegisteredOperation operationId _ _ _, some schema, some outcome =>
    if facts.outcomeIsRegistered then
      [.operationResult ⟨operationId, facts.observation, schema.outcomeSchema, schema,
        facts.outcomeJson, some outcome, some ⟨outcome, schema⟩⟩]
    else []
  | _, _, _ => []

def complete (facts : Facts) : Except CoreError (List Signal × List StrategyEvent) := do
  let owned ← completable context record
  match owned, record.request.decisionId with
  | true, some decisionId =>
    .ok (completionSignal digests context decisionId (completionOf facts.observation.status),
      operationResult record facts)
  | _, _ => .ok ([], [])

def advancedRecord (facts : Facts) : RequestRecord :=
  let (phase, retries) := nextPhase record facts.observation
  let retryAt :=
    if phase = .dispatched && facts.observation.retryable then
      some (context.run.nowAt + context.run.limits.requestRetries.delay retries)
    else none
  storeFacts record facts phase retries retryAt

def advancePhase (cascade : RecordsState → RequestRecord → Except CoreError Change)
    (state : RecordsState) (record : RequestRecord) (answer : Facts) : Except CoreError Change := do
  let facts := exhausted context record answer
  let updated := advancedRecord context record facts
  let stored := replace state updated
  let signals ← ownerSignals context updated facts
  if updated.phase = .completed then
    let fenced ← blockTarget stored updated
    let (completion, events) ← complete digests context updated facts
    let change : Change :=
      { state := fenced, signals := (signals ++ completion).eraseDups, events }
    if facts.observation.status ≠ .succeeded then
      let more ← cascade fenced updated
      .ok (change.merge more)
    else .ok change
  else .ok { state := stored, signals }

def rejectProof (detail : String) (path : String) : CoreError :=
  .contract ["observation", path] ("differs from canonical request: " ++ detail)

def applyFacts (cascade : RecordsState → RequestRecord → Except CoreError Change)
    (state : RecordsState) (record : RequestRecord) (facts : Facts) (unsent : Bool) :
    Except CoreError Change :=
  match observationFor record facts.observation with
  | .missing reason => .error (rejectProof reason.text "scope")
  | .mismatch field => .error (rejectProof field.text "scope")
  | .proven _ =>
    if record.phase = .prepared && !unsent then
      .error (.contract ["observation", "request_id"]
        "observation requires committed dispatch authorization")
    else
      match freshObservation record.observation facts.observation with
      | .mismatch .sequence =>
        if record.observation.any fun previous =>
            facts.observation.sequence < previous.sequence then
          .ok { state := state }
        else
          .error (.contract ["observation", "sequence"] "conflicts with the accepted observation")
      | .mismatch field => .error (rejectProof field.text "sequence")
      | .missing reason => .error (rejectProof reason.text "sequence")
      | .proven _ =>
        if some facts.observation = record.observation then .ok { state := state }
        else if record.phase = .completed then refine state record facts.observation
        else advancePhase digests context cascade state record facts

def unsentCancellation : Facts :=
  { observation :=
      { eventId := ⟨"cancelled-unsent:" ++ record.requestId.root⟩
        requestId := record.requestId
        scope := record.request.scope
        sequence := match record.observation with
          | none => 0
          | some observation => observation.sequence + 1
        observedAt := context.run.nowAt
        status := .cancelled
        accepted := false
        terminal := true
        released := true
        childrenComplete := true
        admissionId := record.request.admissionId } }

def cancelOne (cascade : RecordsState → RequestRecord → Except CoreError Change)
    (change : Change) (record : RequestRecord) : Except CoreError Change := do
  let found ← unique change.state record.requestId
  match found with
  | none => .ok change
  | some current =>
    if current.phase ≠ .prepared then .ok change
    else
      let more ← applyFacts digests context cascade change.state current
        (unsentCancellation context current) true
      .ok (change.merge more)

def cancelPrepared (cascade : RecordsState → RequestRecord → Except CoreError Change)
    (state : RecordsState) (doomed : List RequestRecord) : Except CoreError Change :=
  sequence (cancelOne digests context cascade) { state := state } doomed

def dependents (failed : RequestRecord) : List RequestRecord :=
  state.records.filter fun row =>
    row.phase = .prepared && failed.requestId ∈ row.request.dependsOn

def cancelDependents : Nat → RecordsState → RequestRecord → Except CoreError Change
  | 0, _, _ => .error .recursion
  | fuel + 1, state, failed =>
    cancelPrepared digests context (cancelDependents fuel) state (dependents state failed)

def cascade : RecordsState → RequestRecord → Except CoreError Change :=
  cancelDependents digests context (state.records.length + 1)

/-! ## Turn pairs

A release of a turn closes the other half of its dispatch and cancellation pair. -/

def releasesTurn (request : Request) (invocation : InvocationRef) (observation : Observation) :
    Bool :=
  let lost := request.requestId = some (lostTurnCancellation invocation)
  observation.terminal &&
    (observation.status = .cancelled || (lost && observation.status = .succeeded) ||
      (lost && observation.status = .rejected))

def lostDispatch (invocation : InvocationRef) : Option RequestRecord :=
  let rows := context.sessions.invocations.filter fun row => row.invocation = invocation
  state.records.find? fun record =>
    (record.phase = .reconciling || record.phase = .blocked) &&
      match record.request.body.turn? with
      | some turn => rows.any fun row => turn = row.turn && record.request.scope = row.scope
      | none => false

def releasedDispatchFacts (request : Request) (invocation : InvocationRef)
    (dispatch : RequestRecord) (observation : Observation) : Facts :=
  let refused := request.requestId = some (lostTurnCancellation invocation) &&
    observation.status = .rejected
  { observation :=
      { observation with
        requestId := dispatch.requestId
        sequence := match dispatch.observation with
          | none => 0
          | some answered => answered.sequence + 1
        status := .cancelled
        accepted := false
        -- A refused cancellation says the executor holds no such turn: nothing runs.
        released := observation.released || refused
        childrenComplete := observation.childrenComplete || refused } }

def endReleasedDispatch (cascade : RecordsState → RequestRecord → Except CoreError Change)
    (state : RecordsState) (request : Request) (invocation : InvocationRef)
    (observation : Observation) : Except CoreError Change :=
  if !releasesTurn request invocation observation then .ok { state := state }
  else
    match lostDispatch context state invocation with
    | none => .ok { state := state }
    | some dispatch =>
      applyFacts digests context cascade state dispatch
        (releasedDispatchFacts request invocation dispatch observation) false

def waitingCancels (turn : TurnSpec) : List RequestRecord :=
  let invocations := (context.sessions.invocations.filter fun row =>
    row.turn = turn && row.scope = scope).map (·.invocation)
  state.records.filter fun record =>
    (record.phase = .dispatched || record.phase = .reconciling || record.phase = .blocked) &&
      (match record.request.body with
      | .cancelTurn invocation => decide (invocation ∈ invocations)
      | _ => false) &&
      record.observation.any fun observation => !observation.terminal

def releasedCancelFacts (cancel : RequestRecord) (observation : Observation) : Facts :=
  { observation :=
      { observation with
        requestId := cancel.requestId
        eventId := ⟨cancel.requestId.root ++ ":released-with-dispatch"⟩
        sequence := match cancel.observation with
          | none => 0
          | some waitingOn => waitingOn.sequence + 1
        status := .cancelled
        accepted := false
        resourceId := cancel.observation.bind (·.resourceId) } }

def endCancel (cascade : RecordsState → RequestRecord → Except CoreError Change)
    (observation : Observation) (change : Change) (cancel : RequestRecord) :
    Except CoreError Change := do
  let more ← applyFacts digests context cascade change.state cancel
    (releasedCancelFacts cancel observation) false
  .ok (change.merge more)

def endCancelsOfReleasedTurn (cascade : RecordsState → RequestRecord → Except CoreError Change)
    (state : RecordsState) (scope : Scope) (turn : TurnSpec) (observation : Observation) :
    Except CoreError Change :=
  if !(observation.terminal && observation.released && observation.childrenComplete) then
    .ok { state := state }
  else
    sequence (endCancel digests context cascade observation) { state := state }
      (waitingCancels context state scope turn)

def reissuable (proof : ReissueProof) : Bool :=
  (record.phase = .dispatched || record.phase = .reconciling) &&
    !(proof = .begunUnsealed && record.lifecycle = .sessionTurn)

def reissuedRecord : RequestRecord :=
  let fresh := context.run.nowAt + context.run.limits.reconciliationBound
  { record with
    phase := .prepared
    observation := none
    sequence := none
    retryAt := none
    until_ :=
      if record.commandOpen then { record.until_ with at_ := max record.until_.at_ fresh }
      else record.until_ }

def reissue : Change :=
  { state := replace state (reissuedRecord context record) }

def observeTarget (cascade : RecordsState → RequestRecord → Except CoreError Change)
    (change : Change) (root : RequestRecord) (target : TargetObservation) :
    Except CoreError Change := do
  let found ← unique change.state target.observation.requestId
  match found with
  | none => .error (.contract ["target", "request_id"] "target names no canonical request")
  | some original =>
    -- Another inspection may already have returned it to PREPARED.
    if target.reissue.isSome && original.phase = .prepared then .ok change
    else if target.reissue.any (reissuable original) then
      .ok (change.merge (reissue context change.state original))
    else
      let more ← applyFacts digests context cascade change.state original target.toFacts false
      let merged := change.merge more
      match root.request.body with
      | .inspectTurn invocation _ =>
        -- An inspection that learned nothing new still ends: Sessions must hear of it.
        if !successWithoutReply target.observation then
          .ok (merged.merge { state := merged.state, signals :=
            [.sessions (.turnObserved invocation target.observation none none none [])] })
        else .ok merged
      | _ => .ok merged

def observed (event : RequestObserved) : Except CoreError Change := do
  let ends := cascade digests context state
  let found ← unique state event.observation.requestId
  match found with
  | none =>
    .error (.contract ["observation", "request_id"] "observation names no canonical request")
  | some root =>
    let change ← applyFacts digests context ends state root event.toFacts false
    match root.request.body with
    | .cancelTurn invocation =>
      let more ← endReleasedDispatch digests context ends change.state root.request invocation
        event.observation
      .ok (change.merge more)
    | .dispatchTurn turn _ =>
      let more ← endCancelsOfReleasedTurn digests context ends change.state root.request.scope turn
        event.observation
      .ok (change.merge more)
    | _ =>
      match event.target with
      | none => .ok change
      | some target =>
        if target.targetResource.isSome then .ok change
        else observeTarget digests context ends change root target

def dueRetries (nowAt : Seconds) : List RecordsEvent :=
  (state.records.filter fun record => record.retryWaitUntil.any (· ≤ nowAt)).map fun record =>
    .retryDue record.requestId nowAt

def retry (nowAt : Seconds) : Except CoreError Change := do
  let found ← unique state requestId
  match found with
  | none => .ok { state := state }
  | some record =>
    match record.retryWaitUntil with
    | none => .ok { state := state }
    | some due =>
      if max context.run.nowAt nowAt < due || state.recovery.phase ≠ .ready then
        .ok { state := state }
      else .ok (reissue context state record)

def undispatchable : Except CoreError Change := do
  let found ← unique state requestId
  match found with
  | none => .ok { state := state }
  | some record =>
    let facts : EpisodeFacts := ⟨context.run, context.attempts, context.sessions, state⟩
    if record.phase ≠ .prepared ||
        !(dependencyFailed digests record.request state ||
          episodeEnded digests facts record.request) then
      .ok { state := state }
    else
      cancelPrepared digests context (cascade digests context state) state [record]

def blockedAtClose : String :=
  "the run closed while this request was blocked at its reconciliation bound"

def stalledFacts : Facts :=
  let eventId : EventId := ⟨"blocked-at-close:" ++ record.requestId.root⟩
  { observation :=
      match record.observation with
      | none =>
        { eventId, requestId := record.requestId, scope := record.request.scope, sequence := 0
          observedAt := context.run.nowAt, status := .failed, terminal := true
          admissionId := record.request.admissionId, diagnostic := blockedAtClose }
      | some previous =>
        { previous with
          eventId, sequence := previous.sequence + 1, observedAt := context.run.nowAt
          status := .failed, terminal := true, diagnostic := blockedAtClose } }

def endStalledBlock : Except CoreError Change := do
  let found ← unique state requestId
  match found with
  | none => .ok { state := state }
  | some record =>
    if record.phase ≠ .blocked || context.run.status ≠ .closing then .ok { state := state }
    else
      applyFacts digests context (cascade digests context state) state record
        (stalledFacts context record) false

def retirementDecision : Option DecisionId :=
  let rows := (context.run.receipts.filter fun row =>
    (match row.decision with
    | some (.work ⟨_, decided, .withdraw (.operation target) .cancel⟩) =>
      target = operation && decided = scope
    | _ => false) &&
      (acceptedReceiptFor digests context.run.receipts (some row.decisionId) none).isProven).map
        (·.decisionId)
  match rows with
  | [decisionId] => some decisionId
  | _ => none

def retireCommand : Outbound :=
  let base := record.request
  match record.observation.bind (·.resourceId) with
  | some resource =>
    within
      { requestId := some ⟨"retire:" ++ record.requestId.root⟩, scope := base.scope
        admissionId := base.admissionId, body := .cancelOwnedResource resource record.requestId }
      context.run.limits.cancellationBound
  | none =>
    within
      { requestId := some ⟨"retire-inspect:" ++ record.requestId.root⟩, scope := base.scope
        admissionId := base.admissionId, body := .inspectRequest record.requestId none }
      context.run.limits.reconciliationBound

def withdrawalCompletion : List Signal :=
  match retirementDecision digests context operation scope with
  | none => []
  | some withdraw => completionSignal digests context withdraw .succeeded

def operationRecords : List RequestRecord :=
  state.records.filter fun row =>
    match row.request.body with
    | .executeRegisteredOperation operationId _ _ _ =>
      operationId = operation.operationId && row.request.scope = scope
    | _ => false

def retire : Except CoreError Change :=
  match operationRecords state operation scope with
  | [record] => do
    let done := withdrawalCompletion digests context operation scope
    if record.phase = .prepared then
      let change ← cancelPrepared digests context (cascade digests context state) state [record]
      .ok (change.merge { state := change.state, signals := done })
    else if record.phase = .completed && (releasedRecord digests record).isProven then
      .ok { state, signals := done }
    else .ok { state, requests := [retireCommand context record] }
  | _ => .error (.contract ["operation"] "retirement needs one canonical operation")

end

/-! ## Late and canonical answers -/

def isLate (state : RecordsState) (event : RequestObserved) : Except CoreError Bool := do
  let root ← unique state event.observation.requestId
  .ok <| root.any fun row =>
    row.observation.any fun observation => observation.eventId.root.startsWith exhaustedMark

def recorded (state : RecordsState) (observation : Observation) :
    Except CoreError (Option Observation) := do
  let found ← unique state observation.requestId
  match found with
  | none => .ok none
  | some record =>
    if record.phase = .completed && record.observation ≠ some observation then
      .ok record.observation
    else .ok none

def canonical (state : RecordsState) (event : RequestObserved) :
    Except CoreError RequestObserved := do
  match event.target with
  | none =>
    let stored ← recorded state event.observation
    match stored with
    | none => .ok event
    | some observation => .ok { event with observation }
  | some target =>
    if target.targetResource.isSome then .ok event
    else
      let stored ← recorded state target.observation
      match stored with
      | none => .ok event
      | some observation =>
        .ok { event with target := some { target with observation } }

def advance (digests : Digests) (state : RecordsState) (context : RecordsContext)
    (event : RecordsEvent) : Except CoreError Change :=
  match event with
  | .requestPrepared event => prepared digests state context event
  | .dispatchAuthorized requestId _ => dispatched state context requestId
  | .requestObserved event => observed digests context state event
  | .operationRetireRequested operation scope => retire digests context state operation scope
  | .retryDue requestId nowAt => retry context state requestId nowAt
  | .requestUndispatchable requestId => undispatchable digests context state requestId
  | .blockedRecordStalled requestId => endStalledBlock digests context state requestId
  | _ => .error (.validation "event.kind" "event is owned by record recovery")

end VibeServeCore.RequestLedger
