/- source: _step.py, _session_inputs.py, _continuations.py
   digest: Single revision authority, deterministic propagation and durable registration. -/

import VibeServeCore.Kernel.Validation
import VibeServeCore.Registration
import VibeServeCore.Scheduling.Reducer

namespace VibeServeCore.Kernel

open Types Proofs
open Clock (downtime resolveUntil)
open Registration (registerRequests resolve)
open RequestRecovery (openHostEpoch)
open Watches (watchDeadlines)

structure Answer where
  state : CoreState
  signals : List Signal := []
  events : List StrategyEvent := []

def inputPending (record : InputRecord) : Bool := record.receipt.isNone

def terminalReceipt (input : SessionInput) (nowAt : Seconds) : InputReceipt :=
  .dropped input.inputId input.target .runTerminal nowAt

def finishInput (nowAt : Seconds) (record : InputRecord) : InputRecord :=
  if inputPending record then
    { record with receipt := some (terminalReceipt record.input nowAt) }
  else record

def finishRun (state : SessionsState) (run : RunState) :
    Except CoreError (AreaChange SessionsState) :=
  if run.status ≠ .terminal then
    .error (.validation "run.status" "input finalization requires terminal context")
  else
    .ok {
      state := { state with inputs := state.inputs.map (finishInput run.nowAt) }
      events := (state.inputs.filter inputPending).map fun record =>
        .inputReceipt (terminalReceipt record.input run.nowAt) }

def changedSibling (before after : SessionsState) : Option String :=
  if before.sessions ≠ after.sessions then some "sessions"
  else if before.invocations ≠ after.invocations then some "invocations"
  else if before.runCharges ≠ after.runCharges then some "run_charges"
  else if before.interrupts ≠ after.interrupts then some "interrupts"
  else if before.acquisitionGroups ≠ after.acquisitionGroups then some "acquisition_groups"
  else if before.runCheckpoints ≠ after.runCheckpoints then some "run_checkpoints"
  else none

def validateFinalInput (nowAt : Seconds) (old new : InputRecord) : Except CoreError Unit := do
  require (new.receipt.isSome && (old.receipt.isNone || new = old)) ["sessions", "inputs"]
    "finalization requires immutable terminal receipts"
  require (old.receipt.isSome || new.receipt = some (terminalReceipt old.input nowAt))
    ["sessions", "inputs"] "remaining inputs require exact RUN_TERMINAL disposal"

def storedReceipt (inputs : List InputRecord) (identity : InputId) : Option InputReceipt :=
  (inputs.reverse.find? fun record => record.input.inputId = identity).bind (·.receipt)

def validateFinalEvent (pending : List InputId) (inputs : List InputRecord)
    (emitted : List InputId) (event : StrategyEvent) : Except CoreError (List InputId) :=
  match event with
  | .inputReceipt (.dropped identity target reason at_) => do
    require (pending.contains identity && !emitted.contains identity &&
        storedReceipt inputs identity = some (.dropped identity target reason at_))
      ["sessions", "events"] "receipt must match one finalized occurrence"
    return emitted ++ [identity]
  | _ => .error (.contract ["sessions", "events"] "finalization emits only input receipts")

def validateFinalEvents (before : SessionsState) (change : AreaChange SessionsState) :
    Except CoreError Unit := do
  let pending := (before.inputs.filter inputPending).map (·.input.inputId)
  let emitted ← Foundation.Process.sequence (validateFinalEvent pending change.state.inputs) []
    change.events
  require (pending.all emitted.contains && emitted.all pending.contains) ["sessions", "events"]
    "every finalized occurrence requires its receipt"

def validateTerminalInputs (before : SessionsState) (change : AreaChange SessionsState)
    (nowAt : Seconds) : Except CoreError Unit := do
  require (change.requests.isEmpty && change.signals.isEmpty) ["sessions", "inputs"]
    "terminal finalization cannot emit work"
  match changedSibling before change.state with
  | some name => .error (.contract ["sessions", name] "input finalization changed sibling authority")
  | none => .ok ()
  require (before.inputs.map (·.input) = change.state.inputs.map (·.input)) ["sessions", "inputs"]
    "finalization must preserve input occurrences"
  (before.inputs.zip change.state.inputs).forM fun pair =>
    validateFinalInput nowAt pair.1 pair.2
  validateFinalEvents before change

def finishRunInputs (state : CoreState) (proposal : RunResultProposal) :
    Except CoreError Answer := do
  let run := { state.run with status := .terminal }
  if state.sessions.inputs.any inputPending then do
    let change ← finishRun state.sessions run
    validateTerminalInputs state.sessions change state.run.nowAt
    return {
      state := { state with run, sessions := change.state }
      events := change.events ++ [.runEnded proposal] }
  else return { state := { state with run }, events := [.runEnded proposal] }

section
variable (digests : Digests) (state : CoreState) (decisionId : DecisionId)

def acceptedUntil : Except CoreError Until :=
  match (state.run.receipts.find? fun receipt => receipt.decisionId = decisionId).bind
      (·.until_) with
  | some until_ => .ok until_
  | none => .error (.contract ["until"] "an accepted wait stores its until before work starts")

def operationRequest (scope : Scope) (wire : OperationWire) : Request where
  requestId := none
  scope := scope
  body := .executeRegisteredOperation (operationIdFor decisionId) wire
    state.run.limits.requestRetries.limit []

def operationPrepared (scope : Scope) (operation : OperationCommand) : Except CoreError Signal :=
  match operation.registeredWire, operation.normalizedScopeReopen with
  | none, _ => .error (.contract ["operation"] "missing registered ingress proof")
  | some wire, some reopen =>
    .ok (.evaluation (.continuationReopenRequested
      { operationRequest state decisionId scope wire with
        requestId := some ⟨"operation:" ++ decisionId.root⟩ } reopen))
  | some wire, none => do
    let until_ ← acceptedUntil state decisionId
    return .records (.requestPrepared
      { request := operationRequest state decisionId scope wire, until_
        lifecycle := operation.request.lifecycle, normalizedTurn := operation.normalizedTurn
        normalizedMeasurement := operation.normalizedMeasurement })

def validateReopenEpisode (request : AttemptReopenRequest) (reopen : ScopeReopenNormalization) :
    Except CoreError Unit := do
  require (request.attempt = reopen.attempt) ["admission", "attempt"]
    "reopen target differs from canonical normalization"
  require (occupiedEpisode state.scheduling.slots (.reopen request)).isProven
    ["admission", "pools"] "reopen requires its recorded capacity episode"

def reopenSignal (request : AttemptReopenRequest) (decision : Command) : Except CoreError Signal :=
  match decision with
  | .work ⟨decisionId, scope, .operation operation⟩ =>
    match operation.normalizedScopeReopen with
    | none => .error (.contract ["admission"] "reopen has no registered normalized operation")
    | some reopen => do
      let prepared ← operationPrepared state decisionId scope operation
      require
        (match prepared with
        | .evaluation (.continuationReopenRequested original _) =>
          original.requestId = some request.requestId
        | _ => false)
        ["admission", "request_id"] "reopen differs from canonical operation"
      validateReopenEpisode state request reopen
      return .attempts (.scopeReopenAdmitted request.attempt request.requestId request.decisionId)
  | _ => .error (.contract ["admission"] "reopen has no registered normalized operation")

def startSignal (admitted : Bool) (request : AttemptRequest) (decision : Command) :
    Except CoreError Signal :=
  match decision with
  | .work ⟨_, scope, .startAttempt attemptId itemId workspace budget sessions⟩ => do
    let differs := "differs from canonical StartAttempt"
    require (request.attemptId = attemptId) ["admission", "attempt_id"] differs
    require (request.itemId = itemId) ["admission", "item_id"] differs
    require (request.generation = scope.generation) ["admission", "generation"] differs
    require (request.admissionCharge = budget.admissionCharge) ["admission", "admission_charge"]
      differs
    if admitted then
      return .attempts (.attemptAdmitted request.decisionId request workspace budget sessions)
    else return .attempts (.attemptRegistered request workspace budget sessions)
  | _ => .error (.contract ["admission"] "signal has no registered StartAttempt")

def admissionSignal (admitted : Bool) (request : AdmissionRequest) : Except CoreError Signal :=
  match acceptedReceiptFor digests state.run.receipts (some request.decisionId) none with
  | .proven origin =>
    match origin.decision.filter fun decision =>
        decision.scope = ⟨.run state.run.runId, state.run.generation⟩ with
    | none => .error (.contract ["admission", "scope"]
        "signal requires current-run canonical admission")
    | some decision =>
      match request with
      | .reopen reopen => reopenSignal state reopen decision
      | .start start => startSignal admitted start decision
  | _ => .error (.contract ["admission"] "signal requires accepted canonical admission")

def isKernelSignal : Signal → Bool
  | .registerAttempt _ | .admitAttempt _ | .closeAdmission | .runDrained
  | .records (.recoveryReady _) => true
  | _ => false

def kernelSignal (signal : Signal) : Except CoreError Answer :=
  match signal with
  | .registerAttempt request =>
    (admissionSignal digests state false (.start request)).map fun next =>
      { state, signals := [next] }
  | .admitAttempt request =>
    (admissionSignal digests state true request).map fun next =>
      { state, signals := [next] }
  | .records (.recoveryReady epoch) =>
    if epoch ≠ state.records.recovery.epoch then .ok { state := state }
    else if state.records.recovery.phase ≠ .ready then
      .error (.contract ["recovery", "phase"]
        "ready notification requires committed barrier proof")
    else .ok { state, signals := [.scheduling (.clockAdvanced state.run.nowAt)] }
  | .closeAdmission => .ok { state, signals := [.scheduling (.admissionControl .drain)] }
  | _ =>
    match state.run.result with
    | none => .error (.contract ["run", "result"] "drain has no registered stop proposal")
    | some proposal =>
      if cleanupPending digests state || state.run.status = .terminal then .ok { state := state }
      else finishRunInputs state proposal

end

section
variable (digests : Digests) (state : CoreState) (decisionId : DecisionId) (target : AttemptRef)

def registrations : List DecisionReceipt :=
  state.run.receipts.filter fun receipt =>
    match receipt.decision with
    | some (.work ⟨_, scope, .startAttempt attemptId ..⟩) =>
      scope.owner = .run state.run.runId && attemptId = target.attemptId &&
        scope.generation = target.generation &&
        (acceptedReceiptFor digests state.run.receipts (some receipt.decisionId) none).isProven
    | _ => false

def retirementAdmission : Except CoreError DecisionId :=
  match state.attempts.attempts.find? fun row => row.ref = target with
  | none => .error (.contract ["target"]
      "retirement requires the exact owned attempt generation")
  | some owner =>
    match state.scheduling.queue.find? fun request => request.target = target with
    | some queued => .ok queued.decisionId
    | none =>
      match owner.admissionId, registrations digests state target with
      | some admissionId, _ => .ok admissionId
      | none, [receipt] => .ok receipt.decisionId
      | none, _ => .error (.contract ["target", "admission_id"]
          "queued attempt has no unique canonical accepted registration")

def withdrawAuthority : RequestId := ⟨"withdraw:" ++ decisionId.root⟩

def proposedSettlement (proposal : Settle) : Settlement where
  settlementId := ⟨"settlement:" ++ decisionId.root⟩
  attempt := target
  candidate := proposal.candidate
  assessments := proposal.assessments
  eligible := proposal.eligible
  retention := proposal.retention
  outcome := proposal.outcome

def retireSignal (disposition : ClosureDisposition) : Except CoreError Signal := do
  let admissionId ← retirementAdmission digests state target
  return .attempts (.retireRequested target disposition (withdrawAuthority decisionId) admissionId
    state.run.nowAt)

def withdrawSignal (scope : Scope) (target : WithdrawTarget) (disposition : Disposition) :
    Except CoreError Signal :=
  match target, disposition with
  | .invocation invocation, .interrupt refund =>
    .ok (.sessions (.interruptRequested invocation refund (withdrawAuthority decisionId)))
  | .operation operation, .cancel =>
    .ok (.records (.operationRetireRequested operation scope))
  | .attempt target, .settle proposal =>
    .ok (.settlement (.assessmentSubmitted (proposedSettlement decisionId target proposal)))
  | .attempt target, .park => retireSignal digests state decisionId target .park
  | .attempt target, .cancel => retireSignal digests state decisionId target .cancel
  | .attempt _, .interrupt _ =>
    .error (.contract ["target"] "interrupt requires invocation target")
  | _, _ => .error (.contract ["target"] "retirement requires attempt target")

def stopAction : StopMode → AdmissionAction
  | .drain => .drain
  | .cancel => .cancel

def decisionSignal : Command → Except CoreError Signal
  | .finish stop => .ok (.scheduling (.admissionControl (stopAction stop.mode)))
  | .work ⟨decisionId, scope, body⟩ =>
    match body with
    | .startAttempt attemptId itemId _ budget _ =>
      .ok (.scheduling (.attemptRequested
        { decisionId, attemptId, itemId, generation := scope.generation
          admissionCharge := budget.admissionCharge }))
    | .requestTurn turn => do
      let until_ ← acceptedUntil state decisionId
      return .sessions (.turnRequested scope turn until_)
    | .withdraw target disposition =>
      withdrawSignal digests state decisionId scope target disposition
    | .measure plan => .ok (.evaluation (.measurementRequested scope plan))
    | .proposeWinner selection => .ok (.settlement (.winnerProposed selection))
    | .operation operation => operationPrepared state decisionId scope operation

end

def lifecycleOwner : LifecycleClass → Area
  | .query | .idempotentWrite => .records
  | .ownedJob => .evaluation
  | .sessionTurn => .sessions

def operationOwner (state : CoreState) (operation : OperationWire) : Except CoreError Area :=
  match state.registry.filter fun row => row.kind = operation.schemaRef.kind with
  | [declared] =>
    match descriptorMatches state.registry state.run.capabilities operation
        operation.schemaRef.lifecycle declared.normalization with
    | .proven descriptor =>
      if descriptor.revisionAuthority ≠ .none || descriptor.normalization = .scopeReopen then
        .ok .attempts
      else .ok (lifecycleOwner descriptor.lifecycle)
    | _ => .error (.contract ["operation"] "dispatch requires an exact offered declaration")
  | _ => .error (.contract ["operation"] "unregistered or ambiguous dispatch")

/-- The reducers a step calls, its digests and the depth it may nest to. -/
structure Kernel where
  digests : Digests
  dispatch : Dispatch
  recursionLimit : Nat

def liftCore {Value : Type} (value : Except CoreError Value) : Except StepError Value :=
  value.mapError .core

def maxSignals : Nat := 1024

structure Pending where
  signal : Signal
  cause : Option DecisionId := none
  admission : Option DecisionId := none

structure Propagation where
  state : CoreState
  pending : List Pending
  seen : List (Area × String) := []
  requests : List Scheduled := []
  events : List StrategyEvent := []

def sortPending (pending : List Pending) : List Pending :=
  signalOrder.flatMap fun area => pending.filter fun entry => eventArea entry.signal = area

def markCompleted (decisionId : DecisionId) (status : CompletionStatus)
    (receipts : List DecisionReceipt) : List DecisionReceipt :=
  receipts.map fun receipt =>
    if receipt.decisionId = decisionId then { receipt with completion := some status } else receipt

section
variable (digests : Digests) (loop : Propagation) (state : CoreState)

def completeDecision (decisionId : DecisionId) (status : CompletionStatus) :
    Except CoreError CoreState :=
  match acceptedReceiptFor digests state.run.receipts (some decisionId) none with
  | .proven receipt =>
    match receipt.completion with
    | some recorded =>
      if recorded ≠ status then .error (.contract ["completion"] "decision completion conflict")
      else .ok state
    | none =>
      .ok (state.withReceipts (markCompleted decisionId status state.run.receipts))
  | _ => .error (.contract ["decision_id"] "completion requires accepted decision identity")

def completeLeading : CoreState → List Pending → Except CoreError (CoreState × List Pending)
  | state, ⟨.decisionCompleted decisionId status, _, _⟩ :: rest => do
    let next ← completeDecision digests state decisionId status
    completeLeading next rest
  | state, queue => .ok (state, queue)

def signalKey (signal : Signal) : Area × String := (eventArea signal, digests.signal signal)

def stallSignals (inFlight : List Request) : Except CoreError (List Signal) :=
  do
    let checkpoints ← stalledCheckpointWaits state.sessions state.records inFlight
    let acquisitions ← stalledAcquisitions state.sessions state.records inFlight
    let blocked ← stalledBlockedRecords state
    let checks ← lapsedCheckWaits state
    return checkpoints.map (fun invocation => Signal.sessions (.checkpointStalled invocation)) ++
      acquisitions.map (fun invocation => Signal.sessions (.acquisitionStalled invocation)) ++
      (undispatchableRequests digests state).map (fun requestId =>
        Signal.records (.requestUndispatchable requestId)) ++
      blocked.map (fun requestId => Signal.records (.blockedRecordStalled requestId)) ++
      lapsedJobWaits state ++ lapsedSessionWaits state ++ checks ++
      (watchDeadlines state).map .records

def stallEntries : Except CoreError (List Pending) :=
  if loop.state.run.status = .terminal then .ok []
  else do
    let signals ← stallSignals digests loop.state (loop.requests.map (·.request))
    return (signals.filter fun signal => !loop.seen.contains (signalKey digests signal)).map
      fun signal => ⟨signal, none, signalAdmission loop.state signal none⟩

def nextEntry : Except CoreError (Option Pending × Propagation) := do
  let (state, queue) ← completeLeading digests loop.state (sortPending loop.pending)
  match queue with
  | entry :: rest => .ok (some entry, { loop with state, pending := rest })
  | [] => do
    let stalled ← stallEntries digests { loop with state, pending := [] }
    match sortPending stalled with
    | entry :: rest => .ok (some entry, { loop with state, pending := rest })
    | [] => .ok (none, { loop with state, pending := [] })

def servedCause (entry : Pending) : Except CoreError (Option DecisionId) :=
  match entry.signal with
  | .registerAttempt request | .admitAttempt request => admittedCause request.decisionId
  | signal =>
    match signalObservation signal with
    | some observation =>
      if (state.records.find observation.requestId).isEmpty then .ok entry.cause
      else eventCause state signal
    | none => .ok entry.cause
where
  admittedCause (decisionId : DecisionId) : Except CoreError (Option DecisionId) :=
    if (acceptedReceiptFor digests state.run.receipts (some decisionId) none).isProven then
      .ok (some decisionId)
    else .error (.contract ["admission"] "signal requires accepted canonical admission")

def servedAdmission (entry : Pending) : Option DecisionId :=
  match entry.signal with
  | .registerAttempt request | .admitAttempt request => some request.decisionId
  | signal => signalAdmission state signal entry.admission

def nextTurn : Except StepError (Option Pending × Propagation) := do
  let (entry, loop) ← liftCore (nextEntry digests loop)
  match entry with
  | none => .ok (none, loop)
  | some entry => do
    let cause ← liftCore (servedCause digests loop.state entry)
    let key := signalKey digests entry.signal
    if loop.seen.contains key then .error (.signalCycle (some entry.signal))
    else
      .ok (some ⟨entry.signal, cause, servedAdmission loop.state entry⟩,
        { loop with seen := key :: loop.seen })

end

def validateEvent (cause : Option DecisionId) : StrategyEvent → Except StepError Unit
  | .feedback (.accepted _) | .runEnded _ =>
    .error (.core (.contract ["feedback"]
      "only the kernel issues acceptance and run termination"))
  | .feedback (.rejected feedback) =>
    if some feedback.decisionId = cause then .error (.leafRejection feedback) else .ok ()
  | .operationResult result =>
    if result.outcomeIsRegistered then .ok ()
    else .error (.core (.contract ["outcome"] "registered callback outcome proof required"))
  | _ => .ok ()

def validateOutbound (state : CoreState) (area : Area) (outbound : Outbound) :
    Except CoreError Unit :=
  match outbound.request.body with
  | .executeRegisteredOperation _ operation _ _ => do
    let owner ← operationOwner state operation
    require (owner = area) ["operation", "owner"] "registered execution bypassed owning lifecycle"
  | _ => .ok ()

def validateAreaOutputs (state : CoreState) (area : Area) (change : AreaChange AreaState)
    (cause : Option DecisionId) : Except StepError Unit := do
  change.events.forM (validateEvent cause)
  liftCore (require (state.run.status ≠ .terminal || change.requests.isEmpty) ["requests"]
    "terminal run cannot emit new requests")
  liftCore (change.requests.forM (validateOutbound state area))

def stamp (entry : Pending) (outbound : Outbound) : Outbound :=
  { outbound with
    request := { outbound.request with
      decisionId := outbound.request.decisionId.or entry.cause
      admissionId := outbound.request.admissionId.or entry.admission } }

def children (entry : Pending) (signals : List Signal) : List Pending :=
  signals.map fun signal => ⟨signal, entry.cause, entry.admission⟩

section
variable (kernel : Kernel)

def serveKernel (loop : Propagation) (entry : Pending) : Except StepError Propagation := do
  let answer ← liftCore (kernelSignal kernel.digests loop.state entry.signal)
  return { loop with
    state := answer.state, pending := loop.pending ++ children entry answer.signals
    events := loop.events ++ answer.events }

def serveArea (loop : Propagation) (entry : Pending) : Except StepError Propagation := do
  let change ← kernel.dispatch loop.state entry.signal
  let area := eventArea entry.signal
  if stateArea change.state ≠ area then
    .error (.core (.contract [area.text, "state"] "reducer returned another area state"))
  else do
    let state := withArea loop.state change.state
    validateAreaOutputs state area change entry.cause
    let requests ← liftCore (change.requests.mapM fun outbound =>
      resolve state (stamp entry outbound) entry.cause)
    return { loop with
      state, pending := loop.pending ++ children entry change.signals
      requests := loop.requests ++ requests, events := loop.events ++ change.events }

def serve (loop : Propagation) (entry : Pending) : Except StepError Propagation :=
  if isKernelSignal entry.signal then serveKernel kernel loop entry
  else serveArea kernel loop entry

/-- The loop of `propagate`. -/
def settle : Nat → Propagation → Except StepError Propagation
  | 0, loop => do
    let (entry, loop) ← nextTurn kernel.digests loop
    match entry with
    | none => .ok loop
    | some _ => .error (.signalCycle none)
  | remaining + 1, loop => do
    let (entry, loop) ← nextTurn kernel.digests loop
    match entry with
    | none => .ok loop
    | some entry => do
      let next ← serve kernel loop entry
      settle remaining next

def registeredTransition (loop : Propagation) : Except CoreError Transition :=
  if loop.state.run.status = .terminal && !loop.requests.isEmpty then
    .error (.contract ["requests"] "terminal transition cannot publish new requests")
  else do
    let (state, allocated) ← registerRequests kernel.digests loop.state loop.requests
    return {
      state, requests := allocated
      events := loop.events.filter (fun event => !endsRun event) ++ loop.events.filter endsRun }
where
  endsRun : StrategyEvent → Bool
    | .runEnded _ => true
    | _ => false

def initialLoop (state : CoreState) (signals : List Signal) (cause : Option DecisionId) :
    Propagation where
  state := state
  pending := signals.map fun signal => ⟨signal, cause, signalAdmission state signal none⟩

/-- `propagate` with `_end_fired_watches`; `depth` bounds the nesting in the interpreter's stack. -/
def propagateWithin : Nat → CoreState → List Signal → Option DecisionId →
    Except StepError Transition
  | 0, _, _, _ => .error (.core .recursion)
  | depth + 1, state, signals, cause => do
    let loop ← settle kernel maxSignals (initialLoop state signals cause)
    let first ← liftCore (registeredTransition kernel loop)
    match watchDeadlines first.state with
    | [] => .ok first
    | fired :: others => do
      let follow ← propagateWithin depth first.state ((fired :: others).map .records) none
      return first.andThen follow

def propagate (state : CoreState) (signals : List Signal) (cause : Option DecisionId) :
    Except StepError Transition :=
  propagateWithin kernel kernel.recursionLimit state signals cause

end

section
variable (digests : Digests) (state : CoreState) (decision : Command) (receipt : DecisionReceipt)

def commandDigest : String :=
  digests.command (canonicalCommand decision)

def identityConflict (decision : Command) : Rejected :=
  rejectDecision decision .identityConflict ["decision_id"] "decision payload changed"

def receiptOf (decisionId : DecisionId) : Option DecisionReceipt :=
  state.run.receipts.find? fun receipt => receipt.decisionId = decisionId

def decisionReplay : Option Transition :=
  (receiptOf state decision.decisionId).map fun previous =>
    if previous.payloadDigest = commandDigest digests decision then { state := state }
    else { state, events := [.feedback (.rejected (identityConflict decision))] }

def addReceipt : CoreState :=
  state.withReceipts (state.run.receipts ++ [receipt])

def refusedReceipt (rejection : Rejected) : DecisionReceipt where
  decisionId := decision.decisionId
  payloadDigest := commandDigest digests decision
  feedback := .rejected rejection

def submittedUntil (run : RunState) : Submission → Option Until
  | .wait _ limit => some (resolveUntil run limit)
  | .finish _ => none

def openedReceipt (run : RunState) (submission : Submission) : DecisionReceipt :=
  let decision := submission.command
  let until_ := submittedUntil run submission
  { decisionId := decision.decisionId, decision := some decision, until_
    limit := until_.map fun stored => max (stored.at_ - run.nowAt) 0
    payloadDigest := commandDigest digests decision
    feedback := .accepted { decisionId := decision.decisionId } }

def stage : Command → CoreState
  | .finish stop =>
    { state with run := { state.run with result := some stop.result, status := .closing } }
  | .work _ => state

def rolledBack (rejection : Rejected) : Transition where
  state := addReceipt state { receipt with feedback := .rejected rejection, decision := none }
  events := [.feedback (.rejected rejection)]

def accept (result : Transition) : Transition :=
  let requestIds := result.requests.filterMap (·.requestId)
  let feedback : DecisionFeedback := .accepted
    { decisionId := receipt.decisionId, allocatedIds := requestIds.map (·.root), requestIds }
  -- Propagation keeps every receipt's identity, so the lookup finds the decision's own.
  let own := (receiptOf result.state receipt.decisionId).getD receipt
  { result with
    state := result.state.withReceipts (result.state.run.receipts.dropLast ++
      [{ own with feedback, requestIds }])
    events := .feedback feedback :: result.events }

end

section
variable (kernel : Kernel) (state : CoreState) (submission : Submission)

def propagateDecision : Except StepError Transition := do
  let decision := submission.command
  let staged := stage (addReceipt state (openedReceipt kernel.digests state.run submission)) decision
  let signal ← liftCore (decisionSignal kernel.digests staged decision)
  propagate kernel staged [signal] (some decision.decisionId)

def conclude (result : Except StepError Transition) : Except StepError Transition :=
  let receipt := openedReceipt kernel.digests state.run submission
  match result with
  | .ok result => .ok (accept receipt result)
  | .error (.leafRejection feedback) => .ok (rolledBack state receipt feedback)
  | .error (.notImplemented area detail) =>
    .ok (rolledBack state receipt
      (rejectDecision submission.command .notImplementedInKernel [area.text] detail))
  | .error error => .error error

/-- One decision and its receipt. -/
def submitted (expectedRevision : Nat) : Except StepError Transition :=
  let decision := submission.command
  match decisionReplay kernel.digests state decision with
  | some replay => .ok replay
  | none =>
    match validateDecision kernel.digests state submission (some expectedRevision) with
    | some rejection =>
      .ok { state := addReceipt state (refusedReceipt kernel.digests decision rejection)
            events := [.feedback (.rejected rejection)] }
    | none => conclude kernel state submission (propagateDecision kernel state submission)

def refuseStale (done : Transition) (submission : Submission) : Transition :=
  let decision := submission.command
  match decisionReplay kernel.digests done.state decision with
  | some replay => done.andThen replay
  | none =>
    let rejection := rejectDecision decision .staleView ["expected_revision"]
      "view revision changed"
    done.andThen
      { state := addReceipt done.state (refusedReceipt kernel.digests decision rejection)
        events := [.feedback (.rejected rejection)] }

def submitNext (done : Transition) (submission : Submission) : Except StepError Transition :=
  (submitted kernel done.state submission done.state.revision).map done.andThen

def proposal (decisions : List Submission) (expectedRevision : Nat) : Except StepError Transition :=
  if expectedRevision ≠ state.revision then
    .ok (decisions.foldl (refuseStale kernel) { state := state })
  else Foundation.Process.sequence (submitNext kernel) { state := state } decisions

end

def withControl (state : CoreState) (control : ControlInput) : CoreState :=
  { state with run := { state.run with controls := state.run.controls ++ [control] } }

def softStop (state : CoreState) (control : ControlInput) (nowAt : Seconds) :
    Except CoreError Transition :=
  if state.run.controls.any fun previous => previous.controlId = control.controlId then
    .ok { state := state }
  else if state.run.status = .terminal then
    .error (.contract ["run", "status"] "terminal run rejects controls")
  else
    .ok { state := advanceTime (withControl state control) [nowAt]
          events := [.controlChanged control] }

def stopDecision (state : CoreState) (control : ControlInput) (mode : StopMode)
    (result : RunResultProposal) : Finish where
  decisionId := ⟨"control:" ++ control.controlId.root⟩
  scope := ⟨.run state.run.runId, state.run.generation⟩
  mode := mode
  result := result

def announcesAcceptance (events : List StrategyEvent) : Bool :=
  events.any fun event =>
    match event with
    | .feedback (.accepted _) => true
    | _ => false

def controlledStatus (run : RunState) : ControlAction → RunStatus
  | .pause => .paused
  | .resume => .running
  | .stop => .closing
  | .steer => run.status

section
variable (kernel : Kernel)

def stopAccepted (state : CoreState) (control : ControlInput) (nowAt : Seconds) (stop : Finish) :
    Except StepError Transition := do
  let result ← submitted kernel (advanceTime state [nowAt]) (.finish stop) state.revision
  if !announcesAcceptance result.events then .ok result
  else
    .ok { result with
      state := withControl result.state control
      events := .controlChanged control :: result.events }

def stopControl (state : CoreState) (control : ControlInput) (nowAt : Seconds)
    (result : Option RunResultProposal) : Except StepError Transition :=
  match result, control.mode with
  | none, _ => liftCore (softStop state control nowAt)
  | some _, none => .error (.core (.contract ["control", "mode"] "a stop names drain or cancel"))
  | some result, some mode =>
    let stop := stopDecision state control mode result
    match receiptOf state stop.decisionId with
    | some previous =>
      if previous.payloadDigest ≠ commandDigest kernel.digests (.finish stop) then
        .error (.core (.contract ["control_id"] "control identity result conflict"))
      else .ok { state := state }
    | none => stopAccepted kernel state control nowAt stop

def newControl (state : CoreState) (control : ControlInput) (nowAt : Seconds) :
    Except StepError Transition :=
  if state.run.status = .terminal then
    .error (.core (.contract ["run", "status"] "terminal run rejects controls"))
  else if (control.action = .resume || control.action = .pause) &&
      (state.run.status = .closing || state.run.status = .blocked || state.run.result.isSome) then
    .error (.core (.contract ["run", "cleanup"] "cleanup must finish before pause or resume"))
  else do
    let timed := advanceTime (withControl state control) [nowAt]
    let updated := { timed with
      run := { timed.run with status := controlledStatus state.run control.action } }
    let result ← (match control.action with
      | .steer => .ok { state := updated }
      | .pause => propagate kernel updated [.scheduling (.admissionControl .pause)] none
      | _ => propagate kernel updated [.scheduling (.admissionControl .resume)] none)
    return { result with events := result.events ++ [.controlChanged control] }

def control (state : CoreState) (input : ControlInput) (nowAt : Seconds)
    (result : Option RunResultProposal) : Except StepError Transition :=
  match state.run.controls.find? fun previous => previous.controlId = input.controlId with
  | some previous =>
    if previous ≠ input then
      .error (.core (.contract ["control_id"] "control identity payload conflict"))
    else if input.action = .stop then stopControl kernel state input nowAt result
    else .ok { state := state }
  | none =>
    if input.action = .stop then stopControl kernel state input nowAt result
    else newControl kernel state input nowAt

end

def creditContinuation (credit : Seconds) (row : Continuation) : Continuation :=
  if (row.phase = .waiting || row.phase = .parked) && row.timeout.isNone then
    { row with downtimeCredit := row.downtimeCredit + credit }
  else row

def creditDowntime (state : EvaluationState) (run : RunState) (credit : Seconds) :
    EvaluationState :=
  if credit ≤ 0 || run.status = .terminal then state
  else { state with continuations := state.continuations.map (creditContinuation credit) }

def openEpoch (state : CoreState) : Signal → Except CoreError CoreState
  | .records (.recoveryStarted epoch nowAt) => do
    let opened ← openHostEpoch state.records state.run epoch nowAt
    let credit := if opened.hosts ≠ state.records.hosts then downtime opened.hosts else 0
    return { state with
      records := opened, evaluation := creditDowntime state.evaluation state.run credit }
  | _ => .ok state

section
variable (kernel : Kernel)

def consumeArea (state : CoreState) (signal : Signal) : Except StepError Transition := do
  let opened ← liftCore (openEpoch state signal)
  let timed := advanceTime opened (suppliedTimes signal)
  let cause ← liftCore (eventCause timed signal)
  propagate kernel timed [signal] cause

def handle (state : CoreState) : CoreEvent → Except StepError Transition
  | .area (.decisionCompleted ..) | .area (.records (.recoveryReady _)) =>
    .error (.core (.contract ["event"] "completion/readiness is an internal lifecycle signal"))
  | .proposalSubmitted decisions expectedRevision =>
    proposal kernel state decisions expectedRevision
  | .decisionSubmitted decision expectedRevision =>
    submitted kernel state decision expectedRevision
  | .runControl input nowAt result => control kernel state input nowAt result
  | .area signal => consumeArea kernel state signal

def keepsWaits (before after : CoreState) : Except CoreError Unit :=
  match unmetWaits before after with
  | [] => .ok ()
  | detail :: _ => .error (.contract ["wait"] ("a recorded wait breaks its contract: " ++ detail))

/-- One step of the kernel. -/
def consume (state : CoreState) (event : CoreEvent) : Except StepError Transition := do
  liftCore (validateIngress kernel.digests state event)
  let result ← handle kernel state event
  liftCore (keepsWaits state result.state)
  return { result with state := { result.state with revision := state.revision + 1 } }

end

/-! ## The production reducers as the kernel calls them -/

def answerAs {Slice : Type} (slice : Slice → AreaState)
    (answer : Except CoreError (AreaChange Slice)) : Except StepError (AreaChange AreaState) :=
  (liftCore answer).map fun change =>
    { state := slice change.state, signals := change.signals, requests := change.requests
      events := change.events }

section
variable (digests : Digests) (state : CoreState)

def reduceRecords (event : RecordsEvent) : Except StepError (AreaChange AreaState) :=
  answerAs .records (Records.advanceRecord digests state.records state.recordsContext event)

def reduceScheduling (event : SchedulingEvent) : Except StepError (AreaChange AreaState) :=
  answerAs .scheduling
    (Scheduling.schedule digests state.scheduling state.schedulingContext event)

end

def Kernel.ReducesRecords (kernel : Kernel) : Prop :=
  ∀ state event, kernel.dispatch state (.records event) = reduceRecords kernel.digests state event

theorem answerAs_eq_ok {Slice : Type} {slice : Slice → AreaState}
    {answer : Except CoreError (AreaChange Slice)} {change : AreaChange AreaState} :
    answerAs slice answer = .ok change ↔ ∃ own, answer = .ok own ∧
      { state := slice own.state, signals := own.signals, requests := own.requests
        events := own.events } = change := by
  cases answer <;> simp [answerAs, liftCore, Except.mapError, Except.map]

end VibeServeCore.Kernel
