/- source: scheduling.py
   digest: FIFO admission and occupancy episodes, with receipt-derived budgets. -/

import VibeServeCore.Adoption
import VibeServeCore.Records.Evolution

namespace VibeServeCore.Scheduling

open Types Proofs
open Adoption (fencesRootMutation)
open RequestLedger (dueRetries)
open RequestRecovery (overdueReconciliations)

abbrev Change := AreaChange SchedulingState

def owner (context : SchedulingContext) (target : AttemptRef) : Option AttemptView :=
  context.attempts.attempts.find? fun attempt =>
    attempt.attemptId = target.attemptId && attempt.generation = target.generation

def mode (context : SchedulingContext) (target : AttemptRef) (admissionId : DecisionId) :
    Except CoreError WorkspaceMode :=
  match owner context target with
  | some attempt => .ok attempt.workspace.mode
  | none =>
    match (context.run.receipts.find? fun receipt => receipt.decisionId = admissionId).bind
        DecisionReceipt.decision with
    | some (.work ⟨_, _, .startAttempt _ _ workspace _ _⟩) => .ok workspace.mode
    | _ => .error (.validation "decision_id" "admission has no canonical workspace plan")

def remaining (state : SchedulingState) (context : SchedulingContext) : Nat :=
  let reserved := state.queue.foldl
    (fun total request =>
      match request with
      | .start start =>
        if (owner context request.target).isNone then total + start.admissionCharge else total
      | .reopen _ => total)
    0
  admissionRemaining context.attempts.attempts context.run.limits.maxAttempts reserved

def reject (state : SchedulingState) (request : AdmissionRequest) (code : RejectionCode)
    (detail : String) : Change :=
  { state := state
    events := [.feedback (.rejected
      { decisionId := request.decisionId, code, path := ["scheduling"], detail })] }

def committedStops (context : SchedulingContext) : List Finish :=
  context.run.receipts.filterMap fun receipt =>
    match receipt.decision, receipt.feedback with
    | some (.finish stop), .accepted feedback =>
      if receipt.decisionId = stop.decisionId && stop.decisionId = feedback.decisionId &&
          stop.scope.owner = .run context.run.runId &&
          stop.scope.generation = context.run.generation then
        some stop
      else none
    | _, _ => none

section
variable (digests : Digests) (state : SchedulingState) (context : SchedulingContext)
  (attempt : AttemptRef) (admissionId : DecisionId) (request : AdmissionRequest)

def firstStop : Option Finish :=
  (committedStop digests context.run).value?

def accepting : Bool :=
  ((context.run.status = .running && context.run.result.isNone) ||
      draining digests context.run) &&
    context.run.nowAt < context.run.deadlineAt && context.records.recovery.phase = .ready

def acceptedStart (identity : DecisionId) : Option Work :=
  match (acceptedReceiptFor digests context.run.receipts (some identity) none).value?.bind
      DecisionReceipt.decision with
  | some (.work ⟨decisionId, scope, .startAttempt attempt item workspace budget sessions⟩) =>
    some ⟨decisionId, scope, .startAttempt attempt item workspace budget sessions⟩
  | _ => none

def registration (target : AttemptRef) : Option Work :=
  context.run.receipts.findSome? fun receipt =>
    match acceptedStart digests context receipt.decisionId with
    | some start =>
      match start.body with
      | .startAttempt attemptId .. =>
        if start.scope.owner = .run context.run.runId && attemptId = target.attemptId &&
            start.scope.generation = target.generation then
          some start
        else none
      | _ => none
    | none => none

def liveAdmission (attempt : AttemptView) (request : AttemptRequest) : Bool :=
  attempt.itemId = request.itemId &&
    attempt.charges.any fun charge =>
      charge.kind = .admission && charge.charged = request.admissionCharge &&
        charge.historicalProof.isNone

def validateStart (request : AttemptRequest) : Option Change :=
  match acceptedStart digests context request.decisionId with
  | some ⟨decisionId, scope, .startAttempt attemptId itemId workspace budget sessions⟩ =>
    if scope.owner ≠ .run context.run.runId then
      some (reject state (.start request) .ownership "start requires canonical accepted decision")
    else if request.attemptId ≠ attemptId || request.itemId ≠ itemId ||
        request.generation ≠ scope.generation ||
        request.admissionCharge ≠ budget.admissionCharge then
      some (reject state (.start request) .identityConflict
        "start differs from canonical decision")
    else
      match owner context (AdmissionRequest.start request).target with
      | none => none
      | some attempt =>
        if registration digests context (AdmissionRequest.start request).target ≠
            some ⟨decisionId, scope, .startAttempt attemptId itemId workspace budget sessions⟩ then
          some (reject state (.start request) .ownership
            "attempt has a different registration authority")
        else if !liveAdmission attempt request then
          some (reject state (.start request) .ownership
            "queued owner requires its live admission receipt")
        else none
  | _ =>
    some (reject state (.start request) .ownership "start requires canonical accepted decision")

def reopenReplayed (request : AttemptReopenRequest) : Bool :=
  ((owner context request.attempt).any fun attempt =>
      attempt.admissionId = some request.decisionId ||
        attempt.closure.any fun closure => closure.admissionId = request.decisionId) ||
    context.run.receipts.any fun receipt =>
      receipt.decisionId = request.decisionId && receipt.completion.isSome

def reopenDeclared (command : OperationCommand) : Bool :=
  match command.registeredWire with
  | none => false
  | some wire =>
    context.run.capabilities.operations.any fun descriptor =>
      descriptor.normalization = .scopeReopen &&
        descriptor.toOperationSchemaRef = wire.schemaRef

def reopenAuthorized (request : AttemptReopenRequest) (closure : AttemptClosure) : Bool :=
  match (acceptedReceiptFor digests context.run.receipts (some request.decisionId) none).value?.bind
      DecisionReceipt.decision with
  | some (.work ⟨decisionId, scope, .operation command⟩) =>
    reopenDeclared context command && scope.owner = .run context.run.runId &&
      scope.generation = context.run.generation &&
      request.requestId = ⟨"operation:" ++ decisionId.root⟩ &&
      command.normalizedScopeReopen = command.registeredScopeReopen &&
      command.normalizedScopeReopen.any fun normalization =>
        normalization.attempt = request.attempt &&
          normalization.parkAuthority = closure.authority && closure.disposition = .park
  | _ => false

def reopenProved (request : AttemptReopenRequest) : Bool :=
  match owner context request.attempt with
  | none => false
  | some attempt =>
    match attempt.closure with
    | none => false
    | some closure =>
      attempt.phase = .parked && attempt.releaseDependencies.isEmpty &&
        !reopenReplayed context request && reopenAuthorized digests context request closure

def admissionProved (registering : Option AttemptRequest) : Bool :=
  match request with
  | .reopen reopen => reopenProved digests context reopen
  | .start start =>
    match owner context request.target with
    | none => registering = some start
    | some attempt =>
      attempt.phase = .queued && attempt.closure.isNone &&
        (validateStart digests state context start).isNone

def deadlineRetirements : List Signal :=
  let liveRun := context.run.status = .running || context.run.status = .paused
  if context.run.nowAt < context.run.deadlineAt ||
      !((liveRun && context.run.result.isNone) || draining digests context.run) then
    []
  else
    (state.queue.filter fun request => admissionProved digests state context request none).map
      fun request => .attempts (.retireRequested request.target .cancel
        ⟨"deadline:" ++ request.decisionId.root⟩ request.decisionId context.run.nowAt)

def rootHeld (context : SchedulingContext) : List Slot → Except CoreError Bool
  | [] => .ok false
  | slot :: rest => do
    let held ← mode context slot.attempt slot.admissionId
    if held = .exclusiveRoot then .ok true else rootHeld context rest

def fits : Except CoreError Bool :=
  if state.slots.any fun slot => slot.attempt.attemptId = request.target.attemptId then .ok false
  else if context.run.limits.maxParallel ≤ state.slots.length then .ok false
  else if state.slots.any fun slot => request.pools.any fun pool => slot.pools.contains pool then
    .ok false
  else do
    let wanted ← mode context request.target request.decisionId
    if wanted ≠ .exclusiveRoot then .ok true
    else if fencesRootMutation digests context.settlement context.records then .ok false
    else return !(← rootHeld context state.slots)

def slotOf : Slot where
  attempt := request.target
  admissionId := request.decisionId
  pools := request.pools
  admittedAt := context.run.nowAt

def admitHead (state : SchedulingState) (head : AdmissionRequest) (rest : List AdmissionRequest) :
    SchedulingState :=
  { state with queue := rest, slots := state.slots ++ [slotOf context head] }

def admitQueued (context : SchedulingContext) (registering : Option AttemptRequest) :
    List AdmissionRequest → SchedulingState → Except CoreError (SchedulingState × List Signal)
  | [], state => .ok (state, [])
  | head :: rest, state => do
    if accepting digests context && admissionProved digests state context head registering then
      if ← fits digests state context head then
        let (filled, signals) ←
          admitQueued context registering rest (admitHead context state head rest)
        return (filled, .admitAttempt head :: signals)
      else return (state, [])
    else return (state, [])

def drained : Bool :=
  state.admissionClosed && state.queue.isEmpty && state.slots.isEmpty &&
    context.run.status = .closing && (firstStop digests context).isSome

def fill (registering : Option AttemptRequest := none) (retireExpired : Bool := true) :
    Except CoreError Change := do
  let expired := if retireExpired then deadlineRetirements digests state context else []
  let (filled, admitted) ← admitQueued digests context registering state.queue state
  let ended := if drained digests filled context then [.runDrained] else []
  .ok { state := filled, signals := expired ++ admitted ++ ended }

def queuedDuplicate : Option Change :=
  state.queue.findSome? fun queued =>
    if queued.decisionId = request.decisionId then
      some (if queued = request then { state := state }
        else reject state request .identityConflict "queued payload changed")
    else if queued.target = request.target then
      some (reject state request .ownership "attempt already queued")
    else none

def occupiedDuplicate : Option Change :=
  (state.slots.find? fun slot => slot.attempt = request.target).map fun slot =>
    if slot.admissionId = request.decisionId && slot.pools = request.pools then { state := state }
    else reject state request .ownership "attempt already occupies capacity"

def existingDuplicate : Option Change :=
  match request with
  | .reopen reopen => if reopenReplayed context reopen then some { state := state } else none
  | .start _ =>
    if (owner context request.target).any fun attempt => attempt.phase ≠ .queued then
      some (reject state request .ownership "attempt already registered")
    else none

def duplicate : Option Change :=
  (queuedDuplicate state request).or
    ((occupiedDuplicate state request).or (existingDuplicate state context request))

def intakeClosed : Bool :=
  state.admissionClosed ||
    (context.run.status = .closing || context.run.status = .blocked ||
      context.run.status = .terminal) ||
    context.run.result.isSome || context.run.deadlineAt ≤ context.run.nowAt

def registers : Option AttemptRequest :=
  match request with
  | .start start => if (owner context request.target).isNone then some start else none
  | .reopen _ => none

def refused : Option Change :=
  if intakeClosed state context then
    some (reject state request .closedScope "admission is closed")
  else
    match request with
    | .start start =>
      if (owner context request.target).isNone &&
          remaining state context < start.admissionCharge then
        some (reject state request .budget "admission budget exhausted")
      else none
    | .reopen reopen =>
      if !reopenProved digests context reopen then
        some (reject state request .ownership
          "reentry requires declared canonical operation and exact park authority")
      else none

def unproven : Option Change :=
  match request with
  | .start start => validateStart digests state context start
  | .reopen _ => none

def append : Except CoreError Change := do
  if !request.pools.Nodup then .error (.validation "pools" "duplicate resource pool")
  else
    let registering := registers context request
    let filled ← fill digests { state with queue := state.queue ++ [request] } context registering
    .ok { filled with signals := (registering.map Signal.registerAttempt).toList ++ filled.signals }

def answer : Option Change :=
  (unproven digests state context request).or
    ((duplicate state context request).or (refused digests state context request))

def enqueue : Except CoreError Change :=
  match answer digests state context request with
  | some answer => .ok answer
  | none => append digests state context request

def endSlotCharge (endedAt : Seconds) (slot : Slot) : Except CoreError Slot :=
  if slot.attempt ≠ attempt || slot.admissionId ≠ admissionId || slot.chargeEndedAt.isSome then
    .ok slot
  else if endedAt < slot.admittedAt then
    .error (.validation "ended_at" "precedes occupancy admission")
  else .ok { slot with chargeEndedAt := some endedAt }

def endCharge (endedAt : Seconds) : Except CoreError Change := do
  let slots ← state.slots.mapM (endSlotCharge attempt admissionId endedAt)
  .ok { state := { state with slots } }

def release : Except CoreError Change :=
  match state.slots.find? fun slot =>
      slot.attempt = attempt && slot.admissionId = admissionId with
  | none => .ok { state := state }
  | some slot =>
    let finish := slot.chargeEndedAt.getD context.run.nowAt
    fill digests
      { state with
        slots := state.slots.filter (· ≠ slot)
        releasedSlotSeconds := state.releasedSlotSeconds + max 0 (finish - slot.admittedAt) }
      context

def ready : Change :=
  let valid := ((owner context attempt).any fun row =>
      row.phase = .active && row.admissionId = some admissionId && row.closure.isNone) &&
    state.slots.any fun slot =>
      slot.attempt = attempt && slot.admissionId = admissionId && slot.chargeEndedAt.isNone
  { state, events := if valid then [.attemptReady attempt admissionId] else [] }

def stopRetirements (stop : Finish) : List Signal :=
  let episodes := (state.slots.map fun slot => (slot.attempt, slot.admissionId)) ++
    state.queue.map fun request => (request.target, request.decisionId)
  (episodes.filter fun episode =>
      (owner context episode.1).any fun attempt =>
        attempt.closure.all fun closure => closure.admissionId ≠ episode.2).map
    fun episode => .attempts (.retireRequested episode.1 .cancel
      ⟨"stop:" ++ stop.decisionId.root ++ ":" ++ episode.2.root⟩ episode.2 context.run.nowAt)

def cancel (state : SchedulingState) (context : SchedulingContext) : Option (List Signal) :=
  if context.run.status ≠ .closing then none
  else
    match firstStop digests context with
    | none => none
    | some stop =>
      if stop.mode ≠ .cancel then none
      else
        some (.evaluation (.runJobsCancelRequested stop.scope stop.decisionId) ::
          stopRetirements state context stop)

def stopReplay : Option Change :=
  match committedStops context with
  | first :: second :: rest =>
    some { state := state
           events := [.feedback (.rejected
             { decisionId := ((second :: rest).getLastD first).decisionId, code := .closedScope
               path := ["run", "result"]
               detail := "first committed stop retains its result and disposition" })] }
  | _ => none

def runSessionsDrain : List Signal :=
  ((firstStop digests context).map fun stop =>
    Signal.sessions (.runSessionsDrainRequested stop.scope stop.decisionId)).toList

def closeAndDrain (cancellations : List Signal) : Except CoreError Change := do
  let filled ← fill digests { state with admissionClosed := true } context
  .ok { filled with signals := cancellations ++ runSessionsDrain digests context ++ filled.signals }

def control (action : AdmissionAction) : Except CoreError Change :=
  match action with
  | .resume =>
    if context.run.status ≠ .running || context.run.result.isSome then .ok { state := state }
    else fill digests { state with admissionClosed := false } context
  | .pause =>
    if context.run.status ≠ .paused then
      .error (.validation "admission_control.run.status"
        "pause requires the run's committed PAUSED status")
    else
      .ok ((stopReplay state context).getD { state := { state with admissionClosed := true } })
  | .drain =>
    match stopReplay state context with
    | some refusal => .ok refusal
    | none => closeAndDrain digests state context []
  | .cancel =>
    match stopReplay state context with
    | some refusal => .ok refusal
    | none =>
      match cancel digests state context with
      | none => .ok { state := state }
      | some cancellations => closeAndDrain digests state context cancellations

/-! ## The reducer -/

def retiredEntry : Bool :=
  request.target = attempt && request.decisionId = admissionId

def tickSignals : List Signal :=
  .evaluation (.observationsDue context.run.nowAt) ::
    (dueRetries context.records context.run.nowAt ++
      overdueReconciliations context.records context.evaluation context.run).map Signal.records

def schedule (event : SchedulingEvent) : Except CoreError Change :=
  match event with
  | .attemptRequested request => enqueue digests state context (.start request)
  | .attemptReopenRequested request => enqueue digests state context (.reopen request)
  | .slotChargeEnded attempt admissionId endedAt => endCharge state attempt admissionId endedAt
  | .slotReleased attempt admissionId => release digests state context attempt admissionId
  | .attemptReady attempt admissionId => .ok (ready state context attempt admissionId)
  | .queueEntryRetired attempt admissionId =>
    fill digests
      { state with queue := state.queue.filter fun request =>
          !retiredEntry attempt admissionId request }
      context none false
  | .clockAdvanced nowAt =>
    if nowAt < context.run.nowAt then .error (.validation "now_at" "clock moved backwards")
    else do
      let filled ← fill digests state context
      .ok { filled with signals := filled.signals ++ tickSignals context }
  | .admissionControl action => control digests state context action
  | .adoptionFenceLifted => fill digests state context

end

end VibeServeCore.Scheduling
