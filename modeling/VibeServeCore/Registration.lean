/- source: _step.py (register_requests, _resolve, _address)
   digest: Allocating identities and persisting every proposed request in the outbox. -/

import VibeServeCore.Clock
import VibeServeCore.Foundation.Process
import VibeServeCore.Proofs

namespace VibeServeCore.Registration

open Types Proofs Clock Foundation.Process

def started (state : CoreState) (decision : Option DecisionId) : Option RequestRecord :=
  state.records.records.find? fun row =>
    row.request.decisionId = decision && row.dispatchedAt.isSome

def resolve (state : CoreState) (outbound : Outbound) (cause : Option DecisionId) :
    Except CoreError Scheduled :=
  match outbound.until_ with
  | .inherited =>
    let owner := cause.or outbound.request.decisionId
    match state.run.receipts.find? fun receipt => some receipt.decisionId = owner with
    | none => .error (.contract ["until"] "an inherited until needs its accepted decision")
    | some receipt =>
      match receipt.until_ with
      | none => .error (.contract ["until"] "an inherited until needs its accepted decision")
      | some accepted =>
        match started state owner, receipt.limit with
        | some row, _ => .ok ⟨outbound.request, row.until_, none⟩
        | none, some limit =>
          .ok ⟨outbound.request, queuedUntil state.run limit accepted.watches, some limit⟩
        | none, none => .ok ⟨outbound.request, accepted, none⟩
  | .within limit => .ok ⟨outbound.request, resolveUntil state.run limit, none⟩
  | .until stored => .ok ⟨outbound.request, stored, none⟩
  | .fromDispatch limit watches =>
    .ok ⟨outbound.request, queuedUntil state.run limit watches, some limit⟩

def address (target command : RequestId) : List RequestRecord → List RequestRecord
  | [] => []
  | row :: rest =>
    if row.requestId = target then
      (if command ∈ row.addressedBy then row
      else { row with addressedBy := row.addressedBy ++ [command] }) :: rest
    else row :: address target command rest

structure Registered where
  records : List RequestRecord
  allocated : List Request := []

section
variable (digests : Digests) (runId : RunId) (revision : Nat)

def allocateId (proposal : Request) (index : Nat) : RequestId :=
  proposal.requestId.getD ⟨runId.root ++ ":" ++ toString revision ++ ":" ++ toString index ++ ":" ++
    String.ofList ((digests.request proposal).toList.take 16)⟩

def preparedRow (scheduled : Scheduled) (requestId : RequestId) (request : Request) :
    RequestRecord where
  requestId := requestId
  request := request
  payloadDigest := digests.request request
  lifecycle := requestLifecycle request
  phase := .prepared
  until_ := scheduled.until_
  limitFromDispatch := scheduled.limitFromDispatch

def registerOne (done : Registered) (entry : Scheduled × Nat) : Except CoreError Registered :=
  let requestId := allocateId digests runId revision entry.1.request entry.2
  let request := { entry.1.request with requestId := some requestId }
  match done.records.find? fun row => row.requestId = requestId with
  | some previous =>
    if digests.request previous.request ≠ digests.request request then
      .error (.contract ["request_id", requestId.root] "request identity conflict")
    else .ok done
  | none =>
    let appended := done.records ++ [preparedRow digests entry.1 requestId request]
    .ok { records := match request.body.commandTarget? with
            | some target => address target requestId appended
            | none => appended
          allocated := done.allocated ++ [request] }

end

def withRequests (allocated : List Request) (receipt : DecisionReceipt) : DecisionReceipt :=
  let own := (allocated.filter fun request =>
    request.decisionId = some receipt.decisionId).filterMap (·.requestId)
  { receipt with requestIds := (receipt.requestIds ++ own).eraseDups }

def attributeRequests (allocated : List Request) (receipt : DecisionReceipt) : DecisionReceipt :=
  if allocated.any fun request => request.decisionId = some receipt.decisionId then
    withRequests allocated receipt
  else receipt

def registerRequests (digests : Digests) (state : CoreState) (requests : List Scheduled) :
    Except CoreError (CoreState × List Request) := do
  let done ← sequence (registerOne digests state.run.runId state.revision)
    { records := state.records.records } requests.zipIdx
  if done.allocated.isEmpty then .ok (state, [])
  else
    .ok ({ state with
      records := { state.records with records := done.records }
      run := { state.run with receipts := state.run.receipts.map (attributeRequests done.allocated) } },
      done.allocated)

end VibeServeCore.Registration
