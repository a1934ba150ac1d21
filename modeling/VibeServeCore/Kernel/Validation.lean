/- source: _waits.py, _validation.py, _ownership.py
   digest: The wait contract of a step, and strict rejection of a decision before any charge. -/

import VibeServeCore.Adoption
import VibeServeCore.Kernel.Ingress

namespace VibeServeCore.Kernel

open Types Proofs
open Episode (episodeEnded)
open Adoption (fencesRootMutation)

section

def waitKindText : WaitKind → String
  | .session => "session"
  | .recoveryCheck => "recovery-check"
  | .ownedJob => "owned-job"
  | .releaseDependency => "release-dependency"
  | .yieldPublication => "yield-publication"
  | .interrupt => "interrupt"
  | .refund => "refund"
  | .dispatch => "dispatch"
  | .retry => "retry"
  | .turnAcquisition => "turn-acquisition"
  | .blockedRecord => "blocked-record"

def sessionPhaseText : SessionPhase → String
  | .acquiring => "acquiring"
  | .idle => "idle"
  | .executing => "executing"
  | .checkpointed => "checkpointed"
  | .suspended => "suspended"
  | .closing => "closing"
  | .terminal => "terminal"
  | .unknown => "unknown"

def sessionWaits : SessionPhase → Bool
  | .acquiring | .executing | .closing => true
  | .idle | .checkpointed | .suspended | .terminal | .unknown => false

def turnAcquires (invocation : Invocation) : Bool :=
  invocation.phase = .acquiring && invocation.observation.isNone

def recoveryWaits : RecoveryPhase → Bool
  | .recovering => true
  | .required | .ready | .blocked => false

def dispatchedByDeadHost (records : RecordsState) (record : RequestRecord) : Bool :=
  record.phase ≠ .prepared && record.dispatchedIn.any (· < records.recovery.epoch)

def answeredInThisEpoch (records : RecordsState) (requestId : RequestId) : Bool :=
  (records.record requestId).any fun command =>
    !command.inFlight && command.dispatchedIn = some records.recovery.epoch

def requestOpen (records : RecordsState) : Nat → List RequestId → RequestId → Bool
  | 0, _, _ => false
  | depth + 1, seen, requestId =>
    match records.record requestId with
    | none => false
    | some record =>
      if seen.contains requestId then false
      else if record.inFlight && !dispatchedByDeadHost records record then true
      else if !record.inFlight && record.isCanonical then false
      else record.addressedBy.any fun command =>
        (record.inFlight && answeredInThisEpoch records command) ||
          requestOpen records depth (requestId :: seen) command

def openRequest (records : RecordsState) (requestId : RequestId) : Bool :=
  requestOpen records (records.records.length + 1) [] requestId

def takenOn (inFlight : List Request) : List RequestId :=
  inFlight.filterMap (·.requestId) ++ inFlight.filterMap (·.body.commandTarget?)

structure Producers where
  pendingRequest : Bool := false
  outboxEvent : Bool := false
  timer : Bool := false

namespace Producers

def union (first second : Producers) : Producers where
  pendingRequest := first.pendingRequest || second.pendingRequest
  outboxEvent := first.outboxEvent || second.outboxEvent
  timer := first.timer || second.timer

def any (producers : Producers) : Bool :=
  producers.pendingRequest || producers.outboxEvent || producers.timer

end Producers

variable (after core : CoreState) (sessions : SessionsState) (records : RecordsState)

abbrev NamedWaits := List (WaitSubject × WaitOn)

def namedWait (named : NamedWaits) (subject : WaitSubject) : Option WaitOn :=
  (named.reverse.find? fun row => row.1 = subject).map Prod.snd

def live (records : RecordsState) (named : NamedWaits) (sent : List RequestId) :
    Nat → List RequestId → WaitOn → Except CoreError Producers
  | 0, _, _ => .error .recursion
  | depth + 1, queued, wait =>
    wait.subjects.foldlM
      (fun found subject =>
        match namedWait named subject with
        | none => .ok found
        | some entity =>
          -- A queued answer moves no owned job, however it is reached.
          (live records named sent depth (if subject.kind = .ownedJob then [] else queued)
            entity).map found.union)
      { pendingRequest := wait.requests.any fun request =>
          openRequest records request || sent.contains request
        outboxEvent := wait.requests.any queued.contains
        timer := wait.timer.isSome }

def alive (named : NamedWaits) (sent : List RequestId) (wait : WaitOn) : Except CoreError Bool :=
  (live records named sent (named.length + 1) [] wait).map Producers.any

def ownedJobSubject (job : OwnedJob) : WaitSubject where
  kind := .ownedJob
  identity :=
    match job.origin with
    | .registered requestId _ _ _ => requestId.root
    | .measurement .. => (job.resourceId.map (·.root)).getD ""

def jobWaits : List (WaitSubject × RequestId × WaitOn) :=
  core.evaluation.allJobs.filterMap fun job =>
    job.wait.map fun wait => (ownedJobSubject job, job.origin.submission, wait)

def sessionNamedWaits : NamedWaits :=
  sessions.sessions.filterMap fun session =>
    session.wait.map fun wait => (⟨.session, session.spec.sessionId.root⟩, wait)

def turnNamedWaits : NamedWaits :=
  (sessions.invocations.filter turnAcquires).filterMap fun row =>
    row.wait.map fun wait => (⟨.turnAcquisition, row.invocation.invocationId.root⟩, wait)

def checkpointNamedWaits : NamedWaits :=
  ((sessions.invocations.filter fun row => row.pendingSuspension.isSome).filterMap fun row =>
    row.wait.map fun wait => (⟨.yieldPublication, row.invocation.invocationId.root⟩, wait)) ++
  sessions.interrupts.filterMap fun row =>
    row.wait.map fun wait => (⟨.interrupt, row.invocation.invocationId.root⟩, wait)

def checkNamedWaits : NamedWaits :=
  records.recovery.checks.filterMap fun check =>
    check.wait.map fun wait => (⟨.recoveryCheck, check.target.root⟩, wait)

def recordedWaits : NamedWaits :=
  (jobWaits core).map (fun row => (row.1, row.2.2)) ++ sessionNamedWaits core.sessions ++
    turnNamedWaits core.sessions ++ checkpointNamedWaits core.sessions ++
    checkNamedWaits core.records

def requestEnded (requestId : RequestId) : Bool :=
  (records.record requestId).any fun record => !record.inFlight

def replyInTransit (requestId : RequestId) : Bool :=
  (records.record requestId).any fun record =>
    record.request.body.turn?.isSome && record.observation.any fun observation =>
      successWithoutReply observation && record.suspension.isNone && record.outcomeJson.isNone

def lapsedJobWaits : List Signal :=
  if core.run.status = .terminal then []
  else
    (jobWaits core).flatMap fun row =>
      (row.2.2.requests.filter (requestEnded core.records)).map fun requestId =>
        .evaluation (.jobWaitLapsed row.2.1 requestId)

def lapsedSessionWaits : List Signal :=
  if core.run.status = .terminal then []
  else
    (sessionNamedWaits core.sessions).flatMap fun row =>
      (row.2.requests.filter fun requestId =>
        requestEnded core.records requestId && !replyInTransit core.records requestId).map
        fun requestId => .sessions (.sessionWaitLapsed ⟨row.1.identity⟩ requestId)

def lapsedCheckWaits : Except CoreError (List Signal) :=
  if core.run.status = .terminal || !recoveryWaits core.records.recovery.phase then .ok []
  else do
    let stuck ← core.records.recovery.checks.filterM fun check =>
      match check.wait with
      | none => .ok false
      | some wait =>
        if check.resolution = .pending && !wait.subjects.isEmpty then
          (alive core.records (recordedWaits core) [] wait).map (!·)
        else .ok false
    .ok (stuck.map fun check => .records (.recoveryCheckWaitLapsed check.target))

def stalledAcquisitions (inFlight : List Request) : Except CoreError (List InvocationRef) := do
  let stalled ← (sessions.invocations.filter turnAcquires).filterM fun row =>
    match row.wait with
    | none => .ok true
    | some wait =>
      (alive records (sessionNamedWaits sessions) (takenOn inFlight) wait).map (!·)
  .ok (stalled.map (·.invocation))

def drainingWithoutCancel (invocation : InvocationRef) : Bool :=
  (sessions.interrupts.find? fun row => row.invocation = invocation).any
      (fun claim => claim.phase = .draining) &&
    ((sessions.invocations.find? fun row => row.invocation = invocation).bind
        (·.observation)).any fun observation =>
      observation.terminal && observation.status ≠ .unknown && observation.status ≠ .pending

def awaitingRefund (invocation : InvocationRef) : Bool :=
  sessions.interrupts.any fun row => row.invocation = invocation && row.phase = .checkpointed

def checkpointWaiters : List InvocationRef :=
  ((sessions.invocations.filter fun turn =>
    turn.pendingSuspension.isSome || drainingWithoutCancel sessions turn.invocation ||
      awaitingRefund sessions turn.invocation).map (·.invocation)).eraseDups

def stalls (sessions : SessionsState) (sent : List RequestId) (wait : Option WaitOn) :
    Except CoreError Bool :=
  match wait with
  | none => .ok true
  | some wait => (alive records (sessionNamedWaits sessions) sent wait).map (!·)

def checkpointStalls (sent : List RequestId) (invocation : InvocationRef) :
    Except CoreError Bool := do
  match sessions.invocations.find? fun row => row.invocation = invocation with
  | none => .ok false
  | some turn =>
    let yields ← (if turn.pendingSuspension.isSome then stalls records sessions sent turn.wait
      else .ok false)
    let refunds := awaitingRefund sessions invocation
    let interrupts ← (match sessions.interrupts.find? fun row => row.invocation = invocation with
      | none => .ok false
      | some claim =>
        if !refunds && drainingWithoutCancel sessions invocation then
          stalls records sessions sent claim.wait
        else .ok false)
    .ok (yields || refunds || interrupts)

def stalledCheckpointWaits (inFlight : List Request) : Except CoreError (List InvocationRef) :=
  (checkpointWaiters sessions).filterM (checkpointStalls sessions records (takenOn inFlight))

def undispatchableRequests (digests : Digests) (core : CoreState) : List RequestId :=
  (core.records.records.filter fun row =>
    row.phase = .prepared && (dependencyFailed digests row.request core.records ||
      episodeEnded digests (episodeFacts core) row.request)).map (·.requestId)

def blockedUnnamed (record : RequestRecord) : Bool :=
  record.phase = .blocked && record.observation.any fun observation =>
    !observation.accepted && observation.resourceId.isNone && observation.children.isEmpty

def blockedRecords : List RequestRecord :=
  if core.run.status ≠ .closing then []
  else core.records.records.filter fun row => row.phase = .blocked && !blockedUnnamed row

def blockedWaits : NamedWaits :=
  ((blockedRecords core).filter fun row => !row.addressedBy.isEmpty).map fun row =>
    (⟨.blockedRecord, row.requestId.root⟩, { requests := row.addressedBy })

def stalledBlockedRecords : Except CoreError (List RequestId) := do
  let stalled ← (blockedRecords core).filterM fun row =>
    match namedWait (blockedWaits core) ⟨.blockedRecord, row.requestId.root⟩ with
    | none => .ok true
    | some wait => (alive core.records (recordedWaits core) [] wait).map (!·)
  .ok (stalled.map (·.requestId))

def mayWaitOn : WaitKind → List WaitKind
  | .turnAcquisition => [.session]
  | .recoveryCheck => [.ownedJob, .session]
  | _ => []

def releasedJobEdges : List String :=
  let released := core.evaluation.allJobs.filterMap fun job =>
    if job.terminal && job.released then job.resourceId else none
  (core.attempts.attempts.filter fun attempt =>
      attempt.phase = .closing || attempt.phase = .blocked).flatMap fun attempt =>
    attempt.releaseDependencies.filterMap fun edge =>
      match edge with
      | .job identity => if released.contains identity then some identity.root else none
      | _ => none

def turnSubjects (turn : Invocation) : List WaitSubject :=
  let identity := turn.invocation.invocationId.root
  (if turn.pendingSuspension.isSome then [⟨.yieldPublication, identity⟩] else []) ++
  (if drainingWithoutCancel sessions turn.invocation then [⟨.interrupt, identity⟩] else []) ++
  (if awaitingRefund sessions turn.invocation then [⟨.refund, identity⟩] else [])

def waitingSubjects : List WaitSubject :=
  ((core.sessions.sessions.filter fun session =>
      sessionWaits session.phase || session.wait.isSome).map fun session =>
    ⟨.session, session.spec.sessionId.root⟩) ++
  ((core.sessions.invocations.filter turnAcquires).map fun row =>
    ⟨.turnAcquisition, row.invocation.invocationId.root⟩) ++
  ((core.records.recovery.checks.filter fun check =>
      recoveryWaits core.records.recovery.phase && check.resolution = .pending).map fun check =>
    ⟨.recoveryCheck, check.target.root⟩) ++
  (jobWaits core).map (·.1) ++
  (releasedJobEdges core).map (WaitSubject.mk .releaseDependency) ++
  core.sessions.invocations.flatMap (turnSubjects core.sessions) ++
  ((core.records.records.filter fun row => row.phase = .prepared).map fun row =>
    ⟨.dispatch, row.requestId.root⟩) ++
  ((core.records.records.filter fun row => row.retryWaitUntil.isSome).map fun row =>
    ⟨.retry, row.requestId.root⟩) ++
  (blockedRecords core).map fun row => ⟨.blockedRecord, row.requestId.root⟩

def changedWaits (before after : CoreState) : NamedWaits :=
  (recordedWaits after).filter fun row => namedWait (recordedWaits before) row.1 ≠ some row.2

def unopenedRequests (changed : NamedWaits) : List String :=
  changed.flatMap fun row =>
    (row.2.requests.filter fun request =>
      !(after.records.record request).any (·.inFlight)).map fun request =>
        waitKindText row.1.kind ++ " " ++ row.1.identity ++ " waits on " ++ request.root

def unnamableEntities (changed : NamedWaits) : List String :=
  changed.flatMap fun row =>
    (row.2.subjects.filter fun entity =>
      !(mayWaitOn row.1.kind).contains entity.kind ||
        !(waitingSubjects after).contains entity).map fun entity =>
      waitKindText row.1.kind ++ " " ++ row.1.identity ++ " waits on " ++
        waitKindText entity.kind ++ " " ++ entity.identity ++
        ", which it may not name or which is not waiting"

def unwaitedJobs : List String :=
  (after.evaluation.allJobs.filter fun job => job.terminal ≠ job.wait.isNone).map fun job =>
    "owned-job " ++ (ownedJobSubject job).identity ++ " is live without a wait, or ended with one"

def unwaitedSessions (before after : SessionsState) : List String :=
  ((after.sessions.filter fun session =>
      sessionWaits session.phase && session.wait.isNone && !before.sessions.contains session).map
    fun session => "session " ++ session.spec.sessionId.root ++ " is " ++
      sessionPhaseText session.phase ++ " without a wait") ++
  ((after.invocations.filter fun turn =>
      turnAcquires turn && turn.wait.isNone && !before.invocations.contains turn).map
    fun turn => "turn " ++ turn.invocation.invocationId.root ++ " is acquiring without a wait")

def unnamedCheckpointWaits (before after : SessionsState) : List String :=
  ((after.invocations.filter fun turn =>
      turn.pendingSuspension.isSome && turn.wait.isNone && !before.invocations.contains turn).map
    fun turn => "turn " ++ turn.invocation.invocationId.root ++ " yields without a wait") ++
  ((after.interrupts.filter fun claim =>
      claim.wait.isNone && drainingWithoutCancel after claim.invocation &&
        (!before.interrupts.contains claim ||
          !((after.invocations.find? fun row => row.invocation = claim.invocation).any
            before.invocations.contains))).map
    fun claim => "interruption of " ++ claim.invocation.invocationId.root ++
      " drains without a wait")

def unmetWaits (before after : CoreState) : List String :=
  unopenedRequests after (changedWaits before after) ++
    unnamableEntities after (changedWaits before after) ++ unwaitedJobs after ++
    unwaitedSessions before.sessions after.sessions ++
    unnamedCheckpointWaits before.sessions after.sessions

end

section
variable (digests : Digests) (state : CoreState)

def unreleasedRecords : List RequestRecord :=
  state.records.records.filter fun record =>
    !blockedUnnamed record &&
      (record.phase ≠ .completed ||
        ((record.lifecycle = .ownedJob || record.lifecycle = .sessionTurn) &&
          !(releasedRecord digests record).isProven))

def releasedResources : List (Option ResourceId × Scope) :=
  ((state.evaluation.allJobs.filter fun job =>
      (releasedJob digests job state.records.records).isProven).map fun job =>
    (job.resourceId, job.scope)) ++
  ((state.records.children.filter fun child =>
      (releasedChild digests child state.records.records).isProven).map fun child =>
    (some child.resourceId, child.scope)) ++
  state.records.records.filterMap fun record =>
    if (record.lifecycle = .ownedJob || record.lifecycle = .sessionTurn) &&
        (releasedRecord digests record).isProven then
      record.observation.map fun observation => (observation.resourceId, observation.scope)
    else none

def recordedObservations : List Observation :=
  state.records.records.filterMap (·.observation) ++
    state.evaluation.allJobs.filterMap (·.observation) ++
    state.records.children.filterMap (·.observation) ++
    state.records.children.flatMap fun child =>
      child.observationWatermarks.map (·.observation)

def unreleasedChildren : Bool :=
  let children := (state.evaluation.allJobs.flatMap fun job =>
      job.children.map fun child => (some child, job.scope)) ++
    (recordedObservations state).flatMap fun observation =>
      observation.descendants.map fun child => (some child, observation.scope)
  children.any fun child => !(releasedResources digests state).contains child

def invocationPending (invocation : Invocation) : Bool :=
  !(invocation.phase = .terminal || invocation.phase = .checkpointed ||
      invocation.phase = .idle) &&
    !(invocation.phase = .suspended && state.evaluation.continuations.any fun row =>
      row.invocation = invocation.invocation &&
        (row.phase = .resumed || row.phase = .cancelled))

def attemptPending (attempt : AttemptView) : Bool :=
  attempt.phase = .queued || attempt.phase = .acquiring || attempt.phase = .active ||
    attempt.phase = .closing || attempt.phase = .blocked || !attempt.releaseDependencies.isEmpty

def cleanupPending : Bool :=
  !state.scheduling.queue.isEmpty || !state.scheduling.slots.isEmpty ||
    state.attempts.attempts.any attemptPending ||
    (state.sessions.sessions.any fun session => session.phase ≠ .terminal) ||
    (state.evaluation.allJobs.any fun job =>
      !(releasedJob digests job state.records.records).isProven) ||
    !(unreleasedRecords digests state).isEmpty || !state.settlement.pending.isEmpty ||
    (state.sessions.interrupts.any fun claim => claim.phase ≠ .completed) ||
    unreleasedChildren digests state ||
    (state.sessions.acquisitionGroups.any fun group => group.phase = .acquiring) ||
    (state.records.children.any fun child =>
      !(releasedChild digests child state.records.records).isProven) ||
    state.sessions.invocations.any (invocationPending state)

end

variable (state : CoreState) (decision : Command) (operation : OperationCommand)

def rejectDecision (code : RejectionCode) (path : List String) (detail : String) : Rejected where
  decisionId := decision.decisionId
  code := code
  path := path
  detail := detail

def closesOut : Command → Bool
  | .finish _ | .work ⟨_, _, .withdraw _ _⟩ => true
  | _ => false

def takesCommand (run : RunState) (command : Command) : Bool :=
  (run.status = .running && run.result.isNone) || (closesOut command && run.status ≠ .terminal)

def scopeClosed (phase : AttemptPhase) : Bool :=
  phase = .terminal || phase = .blocked || phase = .closing || phase = .parked

def staleGeneration (generation : Nat) : Option Rejected :=
  if decision.scope.generation ≠ generation then
    some (rejectDecision decision .generation ["scope", "generation"]
      "stale ownership generation")
  else none

def validateScope : Option Rejected :=
  if state.records.recovery.phase ≠ .ready && !closesOut decision then
    some (rejectDecision decision .closedScope ["recovery"]
      "ordinary decisions require ready recovery")
  else if decision.scope.owner = .run state.run.runId then
    staleGeneration decision state.run.generation
  else
    match state.attempts.attempts.find? fun attempt =>
        decision.scope.owner = .attempt attempt.attemptId with
    | none => some (rejectDecision decision .ownership ["scope", "owner"] "unknown owner")
    | some owner =>
      if scopeClosed owner.phase then
        some (rejectDecision decision .closedScope ["scope", "owner"] "attempt scope closed")
      else staleGeneration decision owner.generation

def takesRoot : Command → Bool
  | .work ⟨_, _, .startAttempt _ _ workspace _ _⟩ => workspace.mode = .exclusiveRoot
  | .work ⟨_, _, .operation command⟩ =>
    command.normalizedScopeReopen.any fun reopened =>
      state.attempts.attempts.any fun attempt =>
        attempt.workspace.mode = .exclusiveRoot && attempt.ref = reopened.attempt
  | _ => false

def validateRootFence (digests : Digests) (state : CoreState) (decision : Command) :
    Option Rejected :=
  if fencesRootMutation digests state.settlement state.records && takesRoot state decision then
    some (rejectDecision decision .dependency ["workspace"] "root workspace adoption in progress")
  else none

def validateStopResult (stop : Finish) : Option Rejected :=
  if stop.result.outcome ≠ .success then none
  else if state.settlement.settlements.isEmpty && !state.run.requirements.allowEmptyQueueSuccess then
    some (rejectDecision (.finish stop) .evidence ["result", "outcome"]
      "zero completed work cannot claim success")
  else if stop.result.selection.any fun selection =>
      !state.settlement.adoption.any fun adoption =>
        adoption.verified && adoption.selection = selection then
    some (rejectDecision (.finish stop) .evidence ["result", "selection"]
      "a successful result must name the verified adopted selection")
  else none

def needsNoTime : WorkBody → Bool
  | .withdraw .. | .proposeWinner _ => true
  | _ => false

def validateUntil : Submission → Option Rejected
  | .finish _ => none
  | .wait request limit =>
    if limit.limit ≤ 0 then
      some (rejectDecision (.work request) .budget ["until", "limit"] "limit must be positive")
    else if !needsNoTime request.body && state.run.deadlineAt ≤ state.run.nowAt then
      some (rejectDecision (.work request) .budget ["until", "limit"]
        "run has no time left for the request")
    else none

/-! ## Withdrawals, capabilities and operations -/

def targetFits : WithdrawTarget → Disposition → Bool
  | .invocation _, .interrupt _ => true
  | _, .interrupt _ => false
  | .attempt _, _ => true
  | .operation _, .cancel => true
  | _, _ => false

def isTarget (owner : AttemptView) : WithdrawTarget → Bool
  | .attempt target => owner.ref = target
  | _ => false

def keptCandidate : Disposition → Option RevisionRef
  | .settle proposal => if proposal.retention = .discard then none else proposal.candidate
  | _ => none

def unheldCandidate (target : WithdrawTarget) (disposition : Disposition) : Option Rejected :=
  match keptCandidate disposition,
      state.attempts.attempts.find? fun owner => isTarget owner target with
  | some candidate, some owner =>
    if candidate = owner.workspace.base ||
        owner.checkpoints.any fun row => row.revision = candidate then none
    else some (rejectDecision decision .evidence ["disposition", "candidate"]
      "the candidate is neither a checkpoint of the attempt nor its base revision")
  | _, _ => none

def validateWithdraw : Option Rejected :=
  match decision with
  | .work ⟨_, _, .withdraw target disposition⟩ =>
    if !targetFits target disposition then
      some (rejectDecision decision .ownership ["target"] "target/disposition mismatch")
    else unheldCandidate state decision target disposition
  | _ => none

def capabilityText : LifecycleCapability → String
  | .park => "park"
  | .interrupt => "interrupt"
  | .steer => "steer"
  | .suspend => "suspend"
  | .profileCapture => "profile-capture"

def requiredCapability : Command → Option LifecycleCapability
  | .work ⟨_, _, .withdraw _ .park⟩ => some .park
  | .work ⟨_, _, .withdraw _ (.interrupt _)⟩ => some .interrupt
  | .work ⟨_, _, .measure plan⟩ => if plan.purpose = .profile then some .profileCapture else none
  | _ => none

def validateCapability : Option Rejected :=
  match requiredCapability decision with
  | none => none
  | some capability =>
    if state.run.capabilities.lifecycle.contains capability then none
    else some (rejectDecision decision .capability ["disposition", "kind"]
      ("unsupported " ++ capabilityText capability))

def validateOperationSemantics (offered : OperationDescriptor) : Option Rejected :=
  if offered.normalization = .scopeReopen && decision.scope.owner ≠ .run state.run.runId then
    some (rejectDecision decision .ownership ["scope", "owner"]
      "scope reopening requires a run-scoped operation")
  else if offered.lifecycle ≠ operation.request.lifecycle then
    some (rejectDecision decision .unknownSchema ["request", "lifecycle"]
      "operation lifecycle mismatch")
  else none

def codecProves (wire : OperationWire) : Bool :=
  operation.request.immutable && wire.payloadJson = operation.request.canonicalJson &&
    operation.normalizedTurn = operation.registeredTurn &&
    operation.normalizedMeasurement = operation.registeredMeasurement &&
    operation.normalizedScopeReopen = operation.registeredScopeReopen

def validateOperation : Option Rejected :=
  match state.run.capabilities.operations.find? fun row => row.kind = operation.request.kind with
  | none => some (rejectDecision decision .undeclaredOperation ["request", "kind"]
      "operation not declared and offered")
  | some offered =>
    match state.registry.find? fun row => row.kind = operation.request.kind,
        operation.registeredWire with
    | some _, some wire =>
      if !codecProves operation wire then
        some (rejectDecision decision .unknownSchema ["request", "payload"]
          "registered codec proof does not match current payload")
      else if !(descriptorMatches state.registry state.run.capabilities wire
          operation.request.lifecycle offered.normalization).isProven then
        some (rejectDecision decision .unknownSchema ["request", "schema"]
          "registered operation schema mismatch")
      else validateOperationSemantics state decision operation offered
    | _, _ => some (rejectDecision decision .unknownSchema ["request", "schema"]
        "registered codec ingress required")

def offeredTurn : Command → Option TurnSpec
  | .work ⟨_, _, .requestTurn turn⟩ => some turn
  | .work ⟨_, _, .operation command⟩ => command.normalizedTurn
  | _ => none

def changesResult : Command → Bool
  | .finish stop => state.run.result.any fun staged => stop.result ≠ staged
  | _ => false

def validateOffer : Option Rejected :=
  if changesResult state decision then
    some (rejectDecision decision .identityConflict ["result"]
      "accepted stop result is immutable")
  else if decision.scope.owner = .run state.run.runId &&
      (offeredTurn decision).any fun turn => turn.chargeClass = .paid then
    some (rejectDecision decision .ownership ["turn", "charge_class"]
      "run-owned turns cannot consume attempt charges")
  else
    (validateWithdraw state decision).or <| (validateCapability state decision).or <|
      match decision with
      | .work ⟨_, _, .operation command⟩ => validateOperation state decision command
      | _ => none

def validateStop : Command → Option Rejected
  | .finish stop => validateStopResult state stop
  | .work _ => none

def validateDecision (digests : Digests) (state : CoreState) (submission : Submission)
    (expectedRevision : Option Nat) : Option Rejected :=
  let decision := submission.command
  if expectedRevision.any fun expected => expected ≠ state.revision then
    some (rejectDecision decision .staleView ["expected_revision"] "view revision changed")
  else if !takesCommand state.run decision then
    some (rejectDecision decision .closedScope ["scope"] "run not accepting decisions")
  else
    (validateScope state decision).or <| (validateRootFence digests state decision).or <|
      (validateStop state decision).or <| (validateUntil state submission).or <|
        validateOffer state decision

end VibeServeCore.Kernel
