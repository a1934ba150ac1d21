/- source: _session_scope.py, _session_rows.py, _session_inputs.py, types/session_inputs.py
   digest: The live scope of a turn, and the life of session input occurrences. -/

import Mathlib.Data.List.Sort
import VibeServeCore.Foundation.Ledger
import VibeServeCore.Foundation.Process
import VibeServeCore.Kernel.Validation

namespace VibeServeCore.Sessions

open Types Proofs
open Kernel (requestEnded turnAcquires)
open Foundation.Ledger

section
variable (state : SessionsState) (invocation : Invocation) (context : SessionsContext)
  (ref : InvocationRef) (requests : List Request)

def runScope : Scope :=
  ⟨.run context.run.runId, context.run.generation⟩

def attemptFor (scope : Scope) : Option AttemptView :=
  context.attempts.attempts.find? fun row =>
    scope.owner = .attempt row.attemptId && row.generation = scope.generation

def scopeActive (scope : Scope) : Bool :=
  match scope.owner with
  | .attempt _ =>
    (attemptFor context scope).any fun owner =>
      owner.phase = .active && owner.closure.isNone &&
        (currentAdmission owner scope owner.admissionId).isProven
  | .run _ => scope = runScope context && context.run.status = .running

def invocationRow : Option Invocation :=
  state.invocations.find? fun row => row.invocation = ref

def provenInvocation : Option Invocation :=
  (invocationRow state ref).bind fun row =>
    (invocationFor state.invocations (.ref ref) row.scope).value?

def dispatches (row : RequestRecord) : Bool :=
  row.lifecycle = .sessionTurn && row.request.scope = invocation.scope &&
    match row.request.body with
    | .dispatchTurn turn _ | .resumeSessionTurn turn _ _ =>
      invocation.registeredOperation.isNone && turn = invocation.turn
    | .executeRegisteredOperation operationId _ _ _ =>
      invocation.registeredOperation = some operationId
    | _ => false

def dispatchingRequest (records : RecordsState) (invocation : Invocation) : Option RequestId :=
  match invocation.observation with
  | some observation => some observation.requestId
  | none =>
    match ((records.records.filter (dispatches invocation)).map (·.requestId)).eraseDups with
    | [owner] => some owner
    | _ => none

def waitingOn (wait : Option WaitOn) (context : SessionsContext) (requests : List Request) :
    Except CoreError (Option WaitOn) := do
  let kept := ((wait.map WaitOn.requests).getD []).filter fun request =>
    !requestEnded context.records request
  let named ← requests.mapM fun request =>
    match request.requestId with
    | none => .error (.validation "request_id" "a wait names a request by its identity")
    | some identity => .ok identity
  match (kept ++ named).eraseDups with
  | [] => return none
  | identities => return some { requests := identities }

def turnMayWait : Bool :=
  turnAcquires invocation || invocation.pendingSuspension.isSome

def replaceInvocation : SessionsState :=
  let stored :=
    if turnMayWait invocation then invocation else { invocation with wait := none }
  { state with invocations := upsert Invocation.invocation state.invocations stored }

def replaceClaim (claim : InterruptClaim) : SessionsState :=
  let stored := if claim.phase = .draining then claim else { claim with wait := none }
  { state with interrupts := upsert InterruptClaim.invocation state.interrupts stored }

def awaitingYield : Except CoreError SessionsState :=
  match invocationRow state ref with
  | none => .ok state
  | some turn =>
    if turn.pendingSuspension.isNone then .ok state
    else (waitingOn turn.wait context requests).map fun wait =>
      replaceInvocation state { turn with wait }

def awaitingInterrupt : Except CoreError SessionsState :=
  match state.interrupts.find? fun row => row.invocation = ref with
  | none => .ok state
  | some claim =>
    if claim.phase ≠ .draining then .ok state
    else (waitingOn claim.wait context requests).map fun wait =>
      replaceClaim state { claim with wait }

def awaitingCheckpoint : Except CoreError SessionsState := do
  awaitingInterrupt (← awaitingYield state context ref requests) context ref requests

end

theorem awaitingCheckpoint_inputs {state next : SessionsState} {context : SessionsContext}
    {ref : InvocationRef} {requests : List Request}
    (waiting : awaitingCheckpoint state context ref requests = .ok next) :
    next.inputs = state.inputs := by
  obtain ⟨yielding, yielded, interrupted⟩ := Foundation.Process.bind_ok waiting
  have first : yielding.inputs = state.inputs := by
    unfold awaitingYield at yielded
    split at yielded
    · cases yielded
      rfl
    split at yielded
    · cases yielded
      rfl
    · obtain ⟨wait, -, rfl⟩ := Foundation.Process.map_ok yielded
      rfl
  have second : next.inputs = yielding.inputs := by
    unfold awaitingInterrupt at interrupted
    split at interrupted
    · cases interrupted
      rfl
    split at interrupted
    · cases interrupted
      rfl
    · obtain ⟨wait, -, rfl⟩ := Foundation.Process.map_ok interrupted
      rfl
  rw [second, first]

section
variable (state : SessionsState) (context : SessionsContext) (ref : InvocationRef)
  (record : InputRecord) (invocation : Invocation)

abbrev Change := AreaChange SessionsState

def addressedToRun (input : SessionInput) (context : SessionsContext) : Bool :=
  input.target = .scope (runScope context)

def takes (context : SessionsContext) (input : SessionInput) : Bool :=
  match input.target with
  | .invocation target => target = invocation.invocation
  | .scope target =>
    target = invocation.scope ||
      (target = runScope context && invocation.registeredOperation.isNone)
  | .item itemId => (attemptFor context invocation.scope).any fun owner => owner.itemId = itemId

abbrev TurnedInput := InputRecord × Option InputReceipt

def drop (reason : InputDropReason) (at_ : Seconds) : TurnedInput :=
  let receipt := .dropped record.input.inputId record.input.target reason at_
  ({ record with receipt := some receipt }, some receipt)

def rewriteInputs (turn : InputRecord → Except CoreError TurnedInput) :
    Except CoreError Change := do
  let turned ← state.inputs.mapM turn
  return {
    state := { state with inputs := turned.map Prod.fst }
    events := (turned.filterMap Prod.snd).map .inputReceipt }

def received (input : SessionInput) : Except CoreError Change :=
  match state.inputs.find? fun row => row.input.inputId = input.inputId with
  | some existing =>
    if existing.input ≠ input then
      .error (.validation "input.input_id" "occurrence payload conflict")
    else .ok { state := state }
  | none =>
    let record : InputRecord := { input := input }
    if context.run.status = .terminal then
      let (dropped, receipt) := drop record .runTerminal context.run.nowAt
      .ok {
        state := { state with inputs := state.inputs ++ [dropped] }
        events := receipt.toList.map .inputReceipt }
    else .ok { state := { state with inputs := state.inputs ++ [record] } }

def steer (context : SessionsContext) : SessionsState → List SessionInput →
    Except CoreError Change
  | state, [] => .ok { state := state }
  | state, input :: rest => do
    let first ← received state context input
    let later ← steer context first.state rest
    return { later with events := first.events ++ later.events }

def free : Bool := record.receipt.isNone && record.reservedTo.isNone

def heldBy : Bool :=
  record.receipt.isNone && record.reservedTo = some ref

def inputOrder (first second : InputRecord) : Bool :=
  first.input.sequence < second.input.sequence ||
    (first.input.sequence = second.input.sequence &&
      decide (first.input.inputId.root ≤ second.input.inputId.root))

def reserves : Bool :=
  invocation.phase = .acquiring && scopeActive context invocation.scope &&
    (state.sessions.find? fun row => row.spec.sessionId = ref.sessionId).any fun session =>
      session.invocation = some ref.invocationId

def reserveInput (ref : InvocationRef) (record : InputRecord) : InputRecord :=
  if free record && takes invocation context record.input then
    { record with reservedTo := some ref }
  else record

def reserve : Change :=
  match provenInvocation state ref with
  | none => { state := state }
  | some invocation =>
    if !reserves state context ref invocation then { state := state }
    else
      let records := state.inputs.map (reserveInput context invocation ref)
      let manifest := (records.filter (heldBy ref)).insertionSort fun first second =>
        inputOrder first second
      { state := { state with inputs := records }
        signals := [.sessions (.turnInputsReserved ref (manifest.map (·.input.inputId)))] }

end

section
variable (digests : Digests) (state : SessionsState) (context : SessionsContext)
  (ref : InvocationRef) (invocation : Invocation) (observation : Observation)

def inspectionId : RequestId :=
  ⟨"input-inspect:" ++ toString ref.sessionId.root.length ++ ":" ++ ref.sessionId.root ++ ":" ++
    toString ref.generation ++ ":" ++ toString ref.invocationId.root.length ++ ":" ++
    ref.invocationId.root⟩

def inspection : Except CoreError Change := do
  let ref := invocation.invocation
  let request := match context.records.record (inspectionId ref) with
    | some previous => previous.request
    | none => {
        requestId := some (inspectionId ref), scope := invocation.scope
        admissionId := (attemptFor context invocation.scope).bind AttemptView.admissionId
        body := .inspectTurn ref (dispatchingRequest context.records invocation) }
  let next ← awaitingCheckpoint state context ref [request]
  return { state := next, requests := [within request context.run.limits.reconciliationBound] }

def reservedRow (identity : InputId) : Option InputRecord :=
  (state.inputs.filter fun row => row.reservedTo = some ref).reverse.find? fun row =>
    row.input.inputId = identity

def manifestHolds (items : List (InputId × (InputRecord → Bool))) : Bool :=
  let reserved := (state.inputs.filter fun row => row.reservedTo = some invocation.invocation).map
    (·.input.inputId)
  items.map Prod.fst = invocation.inputIds && sameIdentities reserved invocation.inputIds &&
    items.all fun item =>
      (reservedRow state invocation.invocation item.1).any item.2

def registeredTurnProven (request : Request) (operationId : OperationId)
    (operation : OperationWire) : Bool :=
  invocation.registeredOperation = some operationId &&
    (acceptedReceiptFor digests context.run.receipts request.decisionId none).isProven &&
    (context.run.receipts.find? fun row => some row.decisionId = request.decisionId).any
      fun receipt =>
        match receipt.decision with
        | some (.work { body := .operation command, .. }) =>
          command.normalizedTurn = some invocation.turn &&
            command.registeredWire = some operation
        | _ => false

def manifestMatches (request : Request) : Bool :=
  match request.body with
  | .dispatchTurn turn inputs | .resumeSessionTurn turn _ inputs =>
    turn = invocation.turn &&
      manifestHolds state invocation (inputs.map fun item =>
        (item.inputId, fun row => row.input.artifact = item.artifact && row.input = item))
  | .executeRegisteredOperation operationId operation _ inputs =>
    registeredTurnProven digests context invocation request operationId operation &&
      manifestHolds state invocation (inputs.map fun item =>
        (item.inputId, fun row => row.input.artifact = item.artifact &&
          takes invocation context row.input))
  | _ => false

def observesTurn : Bool :=
  invocation.observation.any fun stored =>
    stored.requestId = observation.requestId && stored.sequence = observation.sequence &&
      stored.accepted = observation.accepted && stored.terminal = observation.terminal &&
      stored.status = observation.status

def recordProves (record : RequestRecord) (invocation : Invocation) (observation : Observation) :
    Bool :=
  invocation.scope = observation.scope && record.request.scope = invocation.scope &&
    (requestMatches digests record record.request).isProven &&
    (observationFor record observation).isProven &&
    (freshObservation record.observation observation).isProven

def admissionProven : Bool :=
  !invocation.scope.owner.isAttempt ||
    (attemptFor context invocation.scope).any fun owner =>
      (currentAdmission owner invocation.scope observation.admissionId).isProven

def inputProof : Option Invocation :=
  match provenInvocation state ref, context.records.record observation.requestId with
  | some invocation, some record =>
    if observesTurn invocation observation && recordProves digests record invocation observation &&
        admissionProven context invocation observation &&
        manifestMatches digests state context invocation record.request then
      some invocation
    else none
  | _, _ => none

def releaseRecord (record : InputRecord) (context : SessionsContext) (invocation : Invocation)
    (at_ : Seconds) : TurnedInput :=
  let returned : TurnedInput := ({ record with reservedTo := none }, none)
  match record.input.target with
  | .invocation _ => drop record .invocationTerminal at_
  | _ =>
    -- The run outlives the attempt whose turn reserved a run-wide input, so it waits again.
    if addressedToRun record.input context then returned
    else
      match (attemptFor context invocation.scope).bind fun owner =>
          (currentClosure owner owner.closure).value? with
      | none => returned
      | some closure =>
        match closure.disposition with
        | .park => returned
        | .cancel => drop record .ownerCancelled at_
        | .settle => drop record .ownerTerminal at_

def deliver (record : InputRecord) (ref : InvocationRef) (observation : Observation) :
    Except CoreError TurnedInput :=
  if !observation.accepted then
    .error (.validation "observation.accepted" "delivery requires acceptance")
  else if observation.scope.generation ≠ ref.generation then
    .error (.validation "observation.scope.generation" "differs from invocation")
  else
    let receipt := .delivered record.input.inputId ref observation
    .ok ({ record with receipt := some receipt }, some receipt)

inductive AcceptanceKind
  | accepted | released

def acceptanceOpen : Bool :=
  observation.status = .unknown || observation.status = .pending ||
    (observation.status = .succeeded && !observation.accepted)

def abandons : Bool :=
  !observation.accepted && observation.terminal &&
    (observation.status = .rejected || observation.status = .failed ||
      observation.status = .cancelled)

def acceptance (kind : AcceptanceKind) (ref : InvocationRef) (observation : Observation) :
    Except CoreError Change :=
  match inputProof digests state context ref observation with
  | none => .ok { state := state }
  | some invocation =>
    if acceptanceOpen observation then inspection state context invocation
    else
      let reserved := fun (record : InputRecord) =>
        heldBy ref record && decide (record.input.inputId ∈ invocation.inputIds)
      match kind with
      | .accepted =>
        if observation.accepted then
          rewriteInputs state fun record =>
            if reserved record then deliver record ref observation else .ok (record, none)
        else .ok { state := state }
      | .released =>
        if abandons observation then
          rewriteInputs state fun record =>
            .ok (if reserved record then
              releaseRecord record context invocation observation.observedAt
            else (record, none))
        else .ok { state := state }

end

/-! ## Retirement -/

def retiresWith (state : SessionsState) (owner : AttemptView) (scope : Scope)
    (input : SessionInput) : Bool :=
  match input.target with
  | .scope target => target = scope
  | .item itemId => itemId = owner.itemId
  | .invocation target => state.invocations.any fun row =>
      row.invocation = target && row.scope = scope

def drain (state : SessionsState) (context : SessionsContext) (attempt : AttemptRef)
    (authority : RequestId) (disposition : ClosureDisposition) : Except CoreError Change :=
  match attemptFor context attempt.scope with
  | none => .ok { state := state }
  | some owner =>
    match (currentClosure owner owner.closure).value? with
    | none => .ok { state := state }
    | some closure =>
      if closure.authority ≠ authority || closure.disposition ≠ disposition ||
          disposition = .park then
        .ok { state := state }
      else
        rewriteInputs state fun record =>
          .ok (if retiresWith state owner attempt.scope record.input && free record then
            drop record (if disposition = .cancel then .ownerCancelled else .ownerTerminal)
              context.run.nowAt
          else (record, none))

def advance (digests : Digests) (state : SessionsState) (context : SessionsContext) :
    InputEvent → Except CoreError Change
  | .sessionInputReceived input => received state context input
  | .steerReceived _ inputs => steer context state inputs
  | .inputReservationRequested ref => .ok (reserve state context ref)
  | .inputAcceptanceObserved ref observation =>
    acceptance digests state context .accepted ref observation
  | .inputReservationReleased ref observation =>
    acceptance digests state context .released ref observation
  | .sessionDrainRequested attempt authority disposition =>
    drain state context attempt authority disposition

end VibeServeCore.Sessions
