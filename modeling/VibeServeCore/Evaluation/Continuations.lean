/- source: _continuations.py, _wait_clock.py, _deadlines.py
   digest: Wait-all authorization, frozen deadlines and guarded scope reopening. -/

import Mathlib.Data.Finset.Card
import VibeServeCore.Foundation.Closure
import VibeServeCore.Evaluation.History
import VibeServeCore.Sessions.Inputs

namespace VibeServeCore.Evaluation

open Types Clock
open Foundation.Closure (untilStable)
open Foundation.Ledger Foundation.Process
open RequestLedger (conclusiveStatus)
open Sessions (dispatchingRequest)

variable (state : EvaluationState) (records : RecordsState) (context : EvaluationContext)
  (invocation : Invocation) (continuation : Continuation) (scope : Scope) (resource : ResourceId)

abbrev Change := AreaChange EvaluationState

def refuse {Value : Type} (path : List String) (detail : String) : Except CoreError Value :=
  .error (.contract path detail)

def require (condition : Bool) (path : List String) (detail : String) : Except CoreError Unit :=
  if condition then .ok () else refuse path detail

def waitingTurn : Except CoreError Invocation :=
  match context.sessions.invocations.find? fun row =>
      row.invocation = continuation.invocation with
  | some row => .ok row
  | none => refuse ["continuation", "invocation"] "requires an owned invocation"

def attemptOf : Option AttemptView :=
  context.attempts.attempts.find? fun row =>
    scope.owner = .attempt row.attemptId && row.generation = scope.generation

def active (context : EvaluationContext) (scope : Scope) : Bool :=
  if context.run.status ≠ .running then false
  else if scope.owner = .run context.run.runId then scope.generation = context.run.generation
  else
    (attemptOf context scope).any fun attempt =>
      attempt.phase = .active && attempt.closure.isNone && attempt.admissionId.isSome

def ownedJob : Except CoreError OwnedJob :=
  match state.allJobs.filter fun job => job.resourceId = some resource with
  | [job] => .ok job
  | _ => refuse ["continuation", "jobs"] "dependency requires exactly one owned job"

def jobsOf : Except CoreError (List OwnedJob) :=
  continuation.jobs.mapM (ownedJob state)

def jobOwnership : Except CoreError Unit := do
  require (!continuation.jobs.isEmpty && decide continuation.jobs.Nodup) ["continuation", "jobs"]
    "requires distinct nonempty dependencies"
  let turn ← waitingTurn context continuation
  let jobs ← jobsOf state continuation
  require (jobs.all fun job => job.scope = turn.scope) ["continuation", "jobs"]
    "dependency belongs to a different scope"

def resourceOf (job : OwnedJob) : Except CoreError ResourceId :=
  match job.resourceId with
  | some resource => .ok resource
  | none => refuse ["continuation", "jobs"] "dependency has no external identity"

def settled (job : OwnedJob) : Bool := job.terminal && conclusiveStatus job.status

def feedbackEvidence (records : List EvidenceRef) : Except CoreError (List EvidenceRef) :=
  sequence (fun unique evidence =>
    match unique.find? fun held => held.key = evidence.key with
    | none => .ok (unique ++ [evidence])
    | some held =>
      if held = evidence then .ok unique
      else refuse ["evidence", evidence.evidenceId.root] "conflicting evidence identity") [] records

def releaseComplete (observation : Observation) : Bool :=
  observation.terminal && observation.released && observation.childrenComplete &&
    conclusiveStatus observation.status

def jobReleased (job : OwnedJob) : Bool :=
  settled job && job.released && job.observation.any fun observation =>
    releaseComplete observation && observation.requestId = job.origin.submission &&
      observation.scope = job.scope && observation.resourceId = job.resourceId &&
      observation.status = job.status

def childReleased (child : ChildLease) : Bool :=
  child.observation.any fun observation =>
    releaseComplete observation && observation.resourceId = some child.resourceId &&
      observation.scope = child.scope && observation.requestId ∈ child.sourceRequests

def holdingJobs : List OwnedJob :=
  state.allJobs.filter fun job => job.resourceId = some resource

def leasesOn : List ChildLease :=
  records.children.filter fun child => child.resourceId = resource

def descendantReleased : Bool :=
  let jobs := holdingJobs state resource
  let leases := leasesOn records resource
  (!jobs.isEmpty || !leases.isEmpty) && jobs.length ≤ 1 && leases.length ≤ 1 &&
    jobs.all (fun job => job.scope = scope && jobReleased job) &&
    leases.all (fun child => child.scope = scope && childReleased child)

structure Discovered where
  sources : Finset RequestId
  resources : Finset ResourceId
  descendants : Finset ResourceId

def observedResources (observation : Option Observation) : List ResourceId :=
  (observation.map Observation.descendants).getD []

def jobDiscovers (job : OwnedJob) : List ResourceId :=
  job.children ++ observedResources job.observation

def leaseDiscovers (child : ChildLease) : List ResourceId :=
  child.resourceId :: observedResources child.observation

def discover (found : Discovered) : Discovered :=
  let resources := found.resources ∪ found.descendants
  let held := state.allJobs.filter fun job =>
    job.scope = scope && job.resourceId.any (· ∈ resources)
  let sources := found.sources ∪ (held.map (·.origin.submission)).toFinset
  let reached := records.children.filter fun child =>
    child.scope = scope &&
      (child.sourceRequests.any (· ∈ sources) || child.parentResources.any (· ∈ resources))
  let descendants := found.descendants ∪ (held.flatMap jobDiscovers).toFinset ∪
    (reached.flatMap leaseDiscovers).toFinset
  ⟨sources, resources ∪ descendants, descendants⟩

def seeds (jobs : List OwnedJob) (own : List ResourceId) : Discovered :=
  ⟨(jobs.map (·.origin.submission)).toFinset, own.toFinset, (jobs.flatMap jobDiscovers).toFinset⟩

def Discovered.sizes (found : Discovered) : Nat × Nat :=
  (found.resources.card, found.sources.card)

def discoverable (jobs : List OwnedJob) (own : List ResourceId) : Nat :=
  own.length + jobs.length + (jobs.flatMap jobDiscovers).length + state.allJobs.length +
    (state.allJobs.flatMap jobDiscovers).length + (records.children.flatMap leaseDiscovers).length

def descendants (state : EvaluationState) (records : RecordsState) (jobs : List OwnedJob)
    (scope : Scope) : Except CoreError (Finset ResourceId) := do
  let own ← jobs.mapM resourceOf
  match untilStable (discover state records scope) Discovered.sizes
      (discoverable state records jobs own + 1) (seeds jobs own) with
  | some found => return found.descendants \ own.toFinset
  | none => .error .recursion

def releasedDependencies : Except CoreError Unit := do
  let jobs ← jobsOf state continuation
  require (jobs.all jobReleased) ["continuation", "jobs"]
    "reopening requires independent terminal release proof for every dependency"
  let turn ← waitingTurn context continuation
  let found ← descendants state context.records jobs turn.scope
  require (decide (∀ resource ∈ found,
      descendantReleased state context.records turn.scope resource))
    ["continuation", "jobs", "children"]
    "reopening requires independent release proof for every discovered descendant"

def submissionLimit (job : OwnedJob) : Except CoreError (Option Seconds) :=
  match job.origin with
  | .registered .. => .ok none
  | .measurement submissionId _ =>
    if !(state.agentCalls.any fun call => call.requestId = some submissionId && !call.repeat_) then
      .ok none
    else
      match records.record submissionId with
      | some record => .ok (some record.until_.at_)
      | none => refuse ["jobs", "submission_id"] "an agent's submission has no record"

def waitBounds (run : RunState) (wait : Continuation) (jobs : List OwnedJob) :
    Except CoreError (List Bound) :=
  let moved := wait.deadlineAt + wait.downtimeCredit
  let own := if wait.deadlineAt ≤ run.deadlineAt then min moved run.deadlineAt else moved
  jobs.mapM fun job => do
    let limit ← submissionLimit state records job
    return jobBound job (max own (limit.getD 0)) run records.hosts

def liveJobs (wait : Continuation) : Except CoreError (List OwnedJob) := do
  let jobs ← jobsOf state wait
  return jobs.filter fun job =>
    !settled job && !(wait.spent.any fun item => some item.resourceId = job.resourceId)

def waitDeadline (wait : Continuation) : Except CoreError Bound := do
  let live ← liveJobs state wait
  let bounds ← waitBounds state context.records context.run wait live
  return earliest bounds ⟨wait.deadlineAt, .limit⟩

def boundedWait (run : RunState) (wait : Continuation) : Continuation :=
  { wait with deadlineAt := min wait.deadlineAt run.deadlineAt }

def untilWaitEnds (request : Request) : Except CoreError Outbound := do
  let deadline ← waitDeadline state context continuation
  return within request (max (deadline.at_ - context.run.nowAt) 0)

inductive SuspensionRefusal
  | scopeNotActive | openContinuation | jobNotOwned | deadlineExceeded

def SuspensionRefusal.detail : SuspensionRefusal → String
  | .scopeNotActive => "requires current active ownership"
  | .openContinuation => "already owns an unfinished continuation"
  | .jobNotOwned => "dependency requires exactly one job owned by the scope"
  | .deadlineExceeded => "run has no time left"

def owesResume (row : Continuation) : Bool :=
  row.phase = .waiting || row.phase = .parked || row.phase = .reopening ||
    row.phase = .authorized &&
      !(context.sessions.invocations.any fun held => held.invocation = row.nextInvocation)

def suspensionRefusal (state : EvaluationState) (scope : Scope) (holder : Option InvocationRef) :
    Except CoreError (Option SuspensionRefusal) := do
  if !active context scope then return some .scopeNotActive
  let claimed := context.sessions.invocations.any fun row =>
    row.pendingSuspension.isSome && row.scope = scope && some row.invocation ≠ holder
  if claimed then return some .openContinuation
  let owed ← state.continuations.anyM fun row => do
    if !owesResume context row then return false
    let turn ← waitingTurn context row
    return turn.scope = scope
  return if owed then some .openContinuation else none

def commitRefusal (state : EvaluationState) (invocation : Invocation) (wait : Continuation) :
    Except CoreError (Option SuspensionRefusal) := do
  match ← suspensionRefusal context state invocation.scope (some invocation.invocation) with
  | some refusal => return some refusal
  | none =>
    let owned := wait.jobs.all fun identity =>
      match holdingJobs state identity with
      | [job] => job.scope = invocation.scope
      | _ => false
    if !owned then return some .jobNotOwned
    let deadline ← waitDeadline state context wait
    -- `time_remains`: any time between the run clock and the bounded time.
    return if min deadline.at_ context.run.deadlineAt > context.run.nowAt then none
      else some .deadlineExceeded

def timeoutProof : Except CoreError Unit :=
  require (continuation.timeout.all fun timeout =>
      (timeout.by_ = .queueBudget || continuation.deadlineAt ≤ timeout.deadlineAt) &&
        timeout.unfinished.all (fun item => item.resourceId ∈ continuation.jobs) &&
        continuation.spent.all (fun item => item ∈ timeout.unfinished))
    ["continuation", "timeout"]
    "frozen timeout must not precede its stated deadline and names owned dependencies"

def ready : Except CoreError Bool :=
  if continuation.timeout.isSome then .ok true
  else if !continuation.spent.isEmpty then .ok false
  else (jobsOf state continuation).map fun jobs => jobs.all settled

def store : EvaluationState :=
  { state with continuations := overwrite (·.continuationId) continuation state.continuations }

def successor (context : EvaluationContext) (continuation : Continuation) :
    Except CoreError Unit := do
  let current := continuation.invocation
  let next := continuation.nextInvocation
  require (current.sessionId = next.sessionId && current.generation = next.generation &&
      current.invocationId ≠ next.invocationId)
    ["continuation", "next_invocation"] "requires a distinct canonical successor"
  require (!(context.sessions.invocations.any fun row => row.invocation = next))
    ["continuation", "next_invocation"] "successor identity is already used"

def declaredOperation (wire : OperationWire) (lifecycle : LifecycleClass)
    (normalization : OperationNormalizationKind) : Bool :=
  match context.run.capabilities.operations.filter fun row => row.kind = wire.schemaRef.kind with
  | [row] =>
    row.requestSchema = wire.schemaRef.requestSchema &&
      row.outcomeSchema = wire.schemaRef.outcomeSchema &&
      row.lifecycle = wire.schemaRef.lifecycle && wire.schemaRef.lifecycle = lifecycle &&
      row.normalization = normalization
  | _ => false

def completionLost (completion : Option CompletionStatus) : Bool :=
  completion = some .failed || completion = some .cancelled

def registersTurn (request : Request) (wire : OperationWire) (receipt : DecisionReceipt) : Bool :=
  match receipt.decision with
  | some (.work ⟨decisionId, _, .operation command⟩) =>
    some receipt.decisionId = request.decisionId && receipt.feedback.isAccepted &&
      receipt.feedback.decisionId = receipt.decisionId && decisionId = receipt.decisionId &&
      !completionLost receipt.completion && command.registeredWire = some wire &&
      command.registeredTurn = some invocation.turn &&
      command.normalizedTurn = some invocation.turn
  | _ => false

def turnMatches (record : RequestRecord) : Bool :=
  let request := record.request
  record.lifecycle = .sessionTurn && request.requestId = some record.requestId &&
    request.scope = invocation.scope &&
    match request.body with
    | .dispatchTurn turn _ | .resumeSessionTurn turn _ _ =>
      invocation.registeredOperation.isNone && turn = invocation.turn
    | .executeRegisteredOperation operationId wire _ _ =>
      invocation.registeredOperation = some operationId &&
        declaredOperation context wire .sessionTurn .none &&
        context.run.receipts.any (registersTurn invocation request wire)
    | _ => false

def resumedContinuation (record : RequestRecord) : Option ContinuationId :=
  match record.request.body with
  | .resumeSessionTurn _ continuationId _ => some continuationId
  | _ => invocation.turn.continuationId

def resumeAncestry (record : RequestRecord) : Except CoreError Unit := do
  match resumedContinuation invocation record with
  | none => return ()
  | some identity =>
    let refused := refuse ["continuation", "invocation"]
      "resumed yield requires exact authorized continuation ancestry"
    match state.continuations.find? fun row => row.continuationId = identity with
    | none => refused
    | some previous =>
      if !(previous.phase = .authorized || previous.phase = .resumed) ||
          previous.nextInvocation ≠ invocation.invocation ||
          !(invocation.turn.continuationId = none ||
            invocation.turn.continuationId = some identity) ||
          !(invocation.turn.predecessor = none ||
            invocation.turn.predecessor = some previous.invocation) then
        refused
      else
        let turn ← waitingTurn context previous
        if turn.turn.session ≠ invocation.turn.session || turn.scope ≠ invocation.scope then refused
        else return ()

def sameManifest (suspension continuation : Continuation) : Bool :=
  suspension.continuationId = continuation.continuationId &&
    suspension.invocation = continuation.invocation &&
    suspension.nextInvocation = continuation.nextInvocation &&
    suspension.jobs = continuation.jobs && suspension.deadlineAt = continuation.deadlineAt

def yielded : Option Observation :=
  invocation.observation.filter fun observation =>
    (invocation.phase = .suspended || invocation.phase = .checkpointed) &&
      invocation.turn.invocationId = invocation.invocation.invocationId &&
      invocation.turn.session.sessionId = invocation.invocation.sessionId &&
      invocation.scope.generation = invocation.invocation.generation && observation.accepted &&
      observation.terminal && observation.status = .succeeded &&
      observation.scope = invocation.scope

def sessionCorresponds (session : SessionView) (retained : Bool) : Bool :=
  session.spec = invocation.turn.session && session.scope = invocation.scope &&
    session.generation = invocation.invocation.generation &&
    (retained ||
      session.invocation = some invocation.invocation.invocationId && session.accepted) &&
    (session.phase = .suspended || session.phase = .checkpointed ||
      retained && session.phase = .idle) && session.resourceId.isSome

def yieldProof (retained : Bool) : Except CoreError Unit := do
  match yielded invocation with
  | none => refuse ["continuation", "invocation"] "requires conclusive owned yield"
  | some observation =>
    let session := context.sessions.sessions.find? fun row =>
      row.spec.sessionId = invocation.invocation.sessionId
    match session, context.records.record observation.requestId with
    | some session, some record =>
      require (sessionCorresponds invocation session retained &&
          turnMatches context invocation record && record.phase = .completed &&
          record.observation = some observation &&
          observation.admissionId = record.request.admissionId)
        ["continuation", "invocation"]
        "requires canonical accepted turn and session correspondence"
      resumeAncestry state context invocation record
      require (record.suspension.all fun suspension => sameManifest suspension continuation)
        ["continuation", "invocation"] "yielded manifest conflicts with canonical suspension"
      if invocation.scope.owner = .run context.run.runId then
        require (invocation.turn.session.access ≠ .writeCandidate) ["continuation", "checkpoint"]
          "run-owned candidate writer has no retained checkpoint contract"
      else
        match attemptOf context invocation.scope with
        | none => refuse ["continuation", "invocation"] "requires exact admitted turn episode"
        | some attempt =>
          require (record.request.admissionId.isSome &&
              (retained || record.request.admissionId = attempt.admissionId))
            ["continuation", "invocation"] "requires exact admitted turn episode"
          require (attempt.checkpoints.any fun checkpoint =>
              checkpoint.invocation = some invocation.invocation)
            ["continuation", "checkpoint"] "requires a committed invocation checkpoint"
    | _, _ =>
      refuse ["continuation", "invocation"]
        "requires canonical accepted turn and session correspondence"

def authorizedEvidence : Except CoreError (List EvidenceRef) := do
  if continuation.timeout.isSome then
    let canonical ← feedbackEvidence continuation.evidence
    require (canonical = continuation.evidence) ["continuation", "evidence"]
      "stored timeout evidence must be canonical and immutable"
    return continuation.evidence
  else
    let jobs ← jobsOf state continuation
    feedbackEvidence (jobs.flatMap OwnedJob.evidence)

def authorizedHistory : Except CoreError (Option (AttemptRef × AttemptEvaluationHistory)) :=
  match attemptOf context scope with
  | none => .ok none
  | some owner =>
    (produceHistory scope state context.records owner context.run).map fun history =>
      some (owner.ref, history)

def publish (evidence : List EvidenceRef)
    (history : Option (AttemptRef × AttemptEvaluationHistory)) : Change :=
  let cursor := (history.filter fun proven => proven.2.availability = .complete).map
    fun proven => proven.2.cursor
  { state := store state { continuation with
      phase := .authorized
      evidence := evidence
      authorizationReceipt := some
        { continuationId := continuation.continuationId
          nextInvocation := continuation.nextInvocation, evidence, historyCursor := cursor
          timeout := continuation.timeout, repeatedFailure := none } }
    events := [.resumeAuthorized
      { continuationId := continuation.continuationId
        nextInvocation := continuation.nextInvocation, evidence, timeout := continuation.timeout
        historyCursor := cursor }]
    signals := history.toList.map fun proven =>
      .attempts (.evaluationHistoryUpdated proven.1 proven.2) }

def authorize (reopened : Bool) : Except CoreError Change := do
  jobOwnership state context continuation
  if continuation.phase ≠ .waiting then return { state := state }
  if !(← ready state continuation) then return { state := state }
  timeoutProof continuation
  let turn ← waitingTurn context continuation
  if !active context turn.scope then return { state := state }
  -- Stay waiting: each submission's conclusive observation wakes this again.
  if !attemptSettled turn.scope state context.records then return { state := state }
  successor context continuation
  yieldProof state context turn continuation reopened
  (if reopened then releasedDependencies state context continuation else .ok ())
  let evidence ← authorizedEvidence state continuation
  if continuation.authorizationReceipt.isSome then
    return { state := store state { continuation with phase := .authorized } }
  let history ← authorizedHistory state context turn.scope
  return publish state continuation evidence history

def validateNew : Except CoreError Invocation := do
  require (continuation.phase = .waiting && continuation.timeout.isNone &&
      continuation.spent.isEmpty && continuation.downtimeCredit = 0 &&
      continuation.evidence.isEmpty && continuation.parkAuthority.isNone &&
      continuation.reopenAuthority.isNone && continuation.cancelledResolutions.isEmpty &&
      continuation.authorizationReceipt.isNone && continuation.precedingSubmission.isNone)
    ["continuation"] "new suspension must contain only waiting record"
  require (!continuation.jobs.isEmpty && decide continuation.jobs.Nodup) ["continuation", "jobs"]
    "requires distinct nonempty dependencies"
  successor context continuation
  let current := continuation.invocation
  let turn ← waitingTurn context continuation
  require (turn.turn.invocationId = current.invocationId &&
      turn.turn.session.sessionId = current.sessionId &&
      turn.scope.generation = current.generation)
    ["continuation", "invocation"] "requires current active ownership"
  let jobs ← jobsOf state continuation
  require (jobs.all fun job => job.scope = turn.scope) ["continuation", "jobs"]
    "dependency belongs to a different scope"
  match ← commitRefusal context state turn continuation with
  | some refusal => refuse ["continuation", "invocation"] refusal.detail
  | none =>
    require (!(state.continuations.any fun row =>
        row.invocation = current || row.nextInvocation = continuation.nextInvocation))
      ["continuation", "invocation"] SuspensionRefusal.openContinuation.detail
    return turn

def coversCursor (covered : List RequestId) (cursor : EvaluationHistoryCursor) : Bool :=
  cursor.ordinal ≤ covered.length &&
    (cursor.ordinal = 0 || covered[cursor.ordinal - 1]? = cursor.submissionId)

def publicationIdentity (invocation predecessor : Invocation)
    (receipt : ResumeAuthorizationReceipt) : Option EvaluationHistoryCursor :=
  receipt.historyCursor.filter fun _ =>
    predecessor.scope = invocation.scope && predecessor.turn.session = invocation.turn.session &&
      (invocation.turn.predecessor = none ||
        invocation.turn.predecessor = some continuation.invocation) &&
      receipt.continuationId = continuation.continuationId &&
      receipt.nextInvocation = invocation.invocation &&
      receipt.timeout = continuation.timeout && receipt.evidence = continuation.evidence

def publicationHistory (predecessor : Invocation) (cursor : EvaluationHistoryCursor) :
    Option EvaluationHistoryCursor :=
  match attemptOf context invocation.scope, predecessor.evaluationPrefix with
  | some owner, some paid =>
    let covered := owner.evaluationHistory.coveredSubmissions
    if owner.evaluationHistory.availability = .complete && coversCursor covered cursor &&
        paid.ordinal ≤ cursor.ordinal &&
        (paid.ordinal = 0 || covered[paid.ordinal - 1]? = paid.submissionId) then some cursor
    else none
  | _, _ => none

def previousPublication : Option EvaluationHistoryCursor :=
  match state.continuations.filter fun row => row.nextInvocation = invocation.invocation with
  | [continuation] => do
    let receipt ← continuation.authorizationReceipt
    let predecessor ← context.sessions.invocations.find? fun row =>
      row.invocation = continuation.invocation
    let observation ← invocation.observation
    match context.records.find observation.requestId with
    | [source] =>
      if resumedContinuation invocation source ≠ some continuation.continuationId then none
      else
        let cursor ← publicationIdentity continuation invocation predecessor receipt
        publicationHistory context invocation predecessor cursor
    | _ => none
  | _ => none

def firstPolls : Except CoreError (List Outbound) := do
  let jobs ← jobsOf state continuation
  (jobs.filter fun job => !settled job).mapM fun job => do
    let resource ← resourceOf job
    untilWaitEnds state context continuation
      { requestId := none
        scope := job.scope
        body := if job.status = .unknown then .inspectOwnedJob resource
          else .observeOwnedJob resource }

def sameSuspension (previous continuation : Continuation) : Bool :=
  previous.invocation = continuation.invocation &&
    previous.nextInvocation = continuation.nextInvocation &&
    previous.jobs = continuation.jobs && previous.deadlineAt = continuation.deadlineAt

def recordWait : EvaluationState :=
  { state with continuations := (state.continuations.map fun row =>
      if row.phase = .authorized && row.nextInvocation = continuation.invocation then
        { row with phase := .resumed }
      else row) ++ [continuation] }

def suspend (event : Continuation) : Except CoreError Change := do
  let continuation := boundedWait context.run event
  match state.continuations.find? fun row =>
      row.continuationId = continuation.continuationId with
  | some previous =>
    require (sameSuspension previous continuation) ["continuation_id"]
      "immutable payload conflict"
    return { state := state }
  | none =>
    let turn ← validateNew state context continuation
    if turn.observation.all fun observation => observation.status = .unknown then
      require (context.records.records.any (turnMatches context turn))
        ["continuation", "invocation"] "inspection requires a canonical owned turn"
      return { state := state, requests := [cleanup context.run
        { requestId := some ⟨continuation.continuationId.root ++ "/inspect-yield"⟩
          scope := turn.scope
          body := .inspectTurn turn.invocation (dispatchingRequest context.records turn) }] }
    yieldProof state context turn continuation false
    let waiting := { continuation with
      precedingSubmission := previousPublication state context turn }
    let updated := recordWait state waiting
    timeoutProof waiting
    if ← ready updated waiting then
      let change ← authorize updated context waiting false
      return { change with events := .turnSuspended waiting :: change.events }
    else
      let requests ← firstPolls state context waiting
      return { state := updated, requests, events := [.turnSuspended waiting] }

def jobTimeout (job : OwnedJob) (bound : Bound) : JobTimeout :=
  ⟨resource, job.progress, bound.by_, bound.at_⟩

def boundedJobs : Except CoreError (List (ResourceId × OwnedJob × Bound)) := do
  let live ← liveJobs state continuation
  let resources ← live.mapM resourceOf
  let bounds ← waitBounds state context.records context.run continuation live
  return resources.zip (live.zip bounds)

def endingBound (bounded : List (ResourceId × OwnedJob × Bound)) (nowAt : Seconds) :
    Option Bound :=
  match (bounded.map fun row => row.2.2).filter fun bound =>
      bound.by_ ≠ .queueBudget && bound.at_ ≤ nowAt with
  | [] => none
  | first :: rest => some (earliest (first :: rest) first)

def latest (spent : List JobTimeout) (default_ : Seconds) : Seconds :=
  match spent with
  | [] => default_
  | first :: rest => rest.foldl (fun best item => max best item.at_) first.at_

def terminations (cause : TerminationCause) (resources : List ResourceId) : List Signal :=
  resources.map fun resource => .evaluation (.jobTerminationRequested resource cause)

def unfinishedJobs (jobs : List OwnedJob) (still : List OwnedJob) (spent : List JobTimeout)
    (deadline : Bound) : Except CoreError (List JobTimeout) := do
  let entries ← jobs.mapM fun job => do
    let resource ← resourceOf job
    return (spent.reverse.find? fun item => item.resourceId = resource).or
      (if job ∈ still then some (jobTimeout resource job deadline) else none)
  return entries.filterMap id

def freeze (nowAt : Seconds) (deadline : Bound) (spent : List JobTimeout) (still : List OwnedJob) :
    Except CoreError Change := do
  let jobs ← jobsOf state continuation
  let unfinished ← unfinishedJobs jobs still spent deadline
  let evidence ← feedbackEvidence ((jobs.filter settled).flatMap OwnedJob.evidence)
  let frozen := { continuation with
    spent := spent
    timeout := some
      { deadlineAt := deadline.at_, reachedAt := nowAt, unfinished, by_ := deadline.by_ }
    evidence := evidence }
  authorize (store state frozen) context frozen false

def reachDeadline (nowAt : Seconds) : Except CoreError Change := do
  if !(continuation.phase = .waiting || continuation.phase = .parked) ||
      continuation.timeout.isSome then
    return { state := state }
  jobOwnership state context continuation
  let bounded ← boundedJobs state context continuation
  let ending := endingBound bounded nowAt
  -- A budget that ran out before the wait ended ends its job alone.
  let spendsUntil := (ending.map Bound.at_).getD nowAt
  let spending := bounded.filter fun row =>
    row.2.2.by_ = .queueBudget && row.2.2.at_ ≤ spendsUntil
  let spent := continuation.spent ++ spending.map fun row =>
    jobTimeout row.1 row.2.1 ⟨row.2.2.at_, .queueBudget⟩
  let cancels := terminations .deadline (spending.map (·.1))
  let still := bounded.filter fun row => row.2.1 ∉ spending.map fun ended => ended.2.1
  let deadline := ending.or
    (if !spent.isEmpty && still.isEmpty then some ⟨latest spent nowAt, .queueBudget⟩ else none)
  match deadline with
  | some deadline =>
    let change ← freeze state context continuation nowAt deadline spent (still.map (·.2.1))
    return { change with
      signals := change.signals ++ cancels ++ terminations .deadline (still.map (·.1)) }
  | none =>
    if spending.isEmpty then return { state := state }
    else return { state := store state { continuation with spent }, signals := cancels }

def andThen (first second : Change) : Change where
  state := second.state
  signals := first.signals ++ second.signals
  requests := first.requests ++ second.requests
  events := first.events ++ second.events

def reachDeadlines : Except CoreError Change :=
  sequence (fun change identity =>
    match change.state.continuations.find? fun row => row.continuationId = identity with
    | none => .ok change
    | some row =>
      if row.timeout.isSome then .ok change
      else (reachDeadline change.state context row context.run.nowAt).map (andThen change))
    { state := state } (state.continuations.map (·.continuationId))

def awaitedInspection (job : OwnedJob) (resource : ResourceId) (sequence : Nat) : Request where
  requestId := some ⟨"inspect-job:" ++ toString continuation.continuationId.root.length ++ ":" ++
    continuation.continuationId.root ++ ":" ++ toString resource.root.length ++ ":" ++
    resource.root ++ ":" ++ toString sequence⟩
  scope := job.scope
  body := .inspectOwnedJob resource

def wake (observation : Observation) (change : Change) (continuation : Continuation) :
    Except CoreError Change := do
  if resource ∉ continuation.jobs || continuation.phase ≠ .waiting then return change
  let state := change.state
  let jobs ← jobsOf state continuation
  match jobs.find? fun job => job.resourceId = some resource with
  | none => return change
  | some job =>
    if job.observation ≠ some observation then return change
    jobOwnership state context continuation
    timeoutProof continuation
    let inspections ← if job.status = .unknown then do
        let outbound ← untilWaitEnds state context continuation
          (awaitedInspection continuation job resource observation.sequence)
        pure [outbound]
      else pure []
    let authorized ← authorize state context continuation false
    return andThen { change with requests := change.requests ++ inspections }
      { authorized with requests := [] }

def jobsChanged (observation : Observation) : Except CoreError Change :=
  sequence (wake context resource observation) { state := state } state.continuations

def closeMatches (request : Request) : Bool :=
  match attemptOf context scope, request.body with
  | some attempt, .closeAttemptScope target =>
    attempt.admissionId.isSome && attempt.closure.any fun closure =>
      closure.disposition = .park && some closure.authority = request.requestId &&
        some closure.admissionId = attempt.admissionId && request.scope = scope &&
        target = attempt.ref && request.admissionId = some closure.admissionId
  | _, _ => false

def parkProof (parkAuthority : Option RequestId) : Except CoreError Unit := do
  require (!(continuation.phase = .authorized && continuation.authorizationReceipt.isNone))
    ["continuation", "authorization"]
    "parking authorized feedback requires a durable authorization receipt"
  match parkAuthority with
  | none => refuse ["park_authority"] "parking requires exact cleanup authority"
  | some authority =>
    let turn ← waitingTurn context continuation
    require ((context.records.record authority).any fun record =>
        closeMatches context turn.scope record.request)
      ["park_authority"] "requires owned canonical scope close"

def retire (disposition : ContinuationDisposition) (parkAuthority : Option RequestId) :
    Except CoreError Change := do
  if continuation.phase = .cancelled || continuation.phase = .resumed then
    return { state := state }
  (if disposition = .park then parkProof context continuation parkAuthority else .ok ())
  jobOwnership state context continuation
  let phase := if disposition = .park then ContinuationPhase.parked else .cancelled
  if continuation.phase = phase && continuation.parkAuthority = parkAuthority then
    return { state := state }
  let jobs ← jobsOf state continuation
  let resources ← (jobs.filter fun job => !settled job).mapM resourceOf
  return { state := store state { continuation with
      phase, parkAuthority, reopenAuthority := none, cancelledResolutions := [] }
           signals := terminations .retirement resources }

def reopensBy (request : Request) (operationId : OperationId) (wire : OperationWire)
    (retryLimit : Nat) (receipt : DecisionReceipt) : Option ScopeReopenNormalization :=
  match receipt.decision with
  | some (.work ⟨decisionId, scope, .operation command⟩) =>
    command.registeredScopeReopen.filter fun normalization =>
      receipt.feedback.isAccepted && receipt.decisionId = decisionId &&
        receipt.feedback.decisionId = receipt.decisionId && !completionLost receipt.completion &&
        command.registeredWire = some wire &&
        command.normalizedScopeReopen = some normalization && scope = request.scope &&
        request.scope = ⟨.run context.run.runId, context.run.generation⟩ &&
        operationId.root = "operation:" ++ decisionId.root &&
        request.requestId = some ⟨"operation:" ++ decisionId.root⟩ &&
        retryLimit = context.run.limits.requestRetries.limit &&
        (request.decisionId = none || request.decisionId = some decisionId)
  | _ => none

def reopenDecision (request : Request) : Option (DecisionId × ScopeReopenNormalization) :=
  match request.body with
  | .executeRegisteredOperation operationId wire retryLimit _ =>
    if !declaredOperation context wire .idempotentWrite .scopeReopen then none
    else
      context.run.receipts.findSome? fun receipt =>
        (reopensBy context request operationId wire retryLimit receipt).map fun normalization =>
          (receipt.decisionId, normalization)
  | _ => none

def parkedOwnership (request : Request) (normalization : ScopeReopenNormalization) : Bool :=
  continuation.phase = .parked && context.run.status = .running &&
    normalization.attempt.scope = scope &&
    continuation.parkAuthority = some normalization.parkAuthority && request.requestId.isSome &&
    (attemptOf context scope).any fun attempt =>
      attempt.phase = .parked && attempt.closure.any fun closure =>
        closure.disposition = .park && some closure.authority = continuation.parkAuthority

def closeCompleted (authority : RequestRecord) : Bool :=
  closeMatches context scope authority.request && authority.phase = .completed &&
    authority.observation.any fun observation =>
      observation.status = .succeeded && observation.scope = scope &&
        observation.requestId = authority.requestId &&
        observation.admissionId = authority.request.admissionId && observation.accepted &&
        observation.terminal && observation.released

def reopen (state : EvaluationState) (context : EvaluationContext) (continuation : Continuation)
    (request : Request) (normalization : ScopeReopenNormalization) : Except CoreError Change := do
  match (reopenDecision context request).filter fun decision => decision.2 = normalization with
  | none => refuse ["normalization"] "requires canonical registered reopening proof"
  | some decision =>
    jobOwnership state context continuation
    timeoutProof continuation
    if continuation.phase = .reopening && continuation.reopenAuthority = request.requestId then
      require (continuation.cancelledResolutions = normalization.resolvedCancelledJobs &&
          continuation.parkAuthority = some normalization.parkAuthority)
        ["normalization"] "reopen identity payload conflict"
      return { state := state }
    require ((context.run.receipts.find? fun row => row.decisionId = decision.1).all fun receipt =>
        receipt.completion.isNone)
      ["normalization"] "completed reopen decision cannot authorize another dispatch"
    releasedDependencies state context continuation
    let turn ← waitingTurn context continuation
    require (parkedOwnership context continuation turn.scope request normalization)
      ["normalization"] "requires current ready parked ownership"
    let isReady ← ready state continuation
    require isReady ["normalization"] "requires current ready parked ownership"
    let jobs ← jobsOf state continuation
    let cancelled := (jobs.filter fun job => job.status = .cancelled).filterMap OwnedJob.resourceId
    require (decide normalization.resolvedCancelledJobs.Nodup &&
        Proofs.sameIdentities normalization.resolvedCancelledJobs cancelled)
      ["resolved_cancelled_jobs"] "must resolve exactly cancelled dependencies"
    require (continuation.parkAuthority.any fun authority =>
        (context.records.record authority).any (closeCompleted context turn.scope))
      ["park_authority"] "requires positive completed cleanup proof"
    return { state := store state { continuation with
        phase := .reopening, reopenAuthority := request.requestId
        cancelledResolutions := normalization.resolvedCancelledJobs }
             signals := [.attempts (.scopeReopenRequested request normalization)] }

def reopensWait (attempt : AttemptView) (normalization : ScopeReopenNormalization) : Bool :=
  normalization.continuationId = continuation.continuationId &&
    continuation.parkAuthority = some normalization.parkAuthority &&
    normalization.resolvedCancelledJobs = continuation.cancelledResolutions &&
    normalization.attempt.scope = scope &&
    attempt.closure.all fun closure => some closure.authority = continuation.parkAuthority

def reopenUnknown (attempt : AttemptView) (authority : RequestRecord) (observation : Observation) :
    Bool :=
  let outcome := authority.outcome.bind Outcome.reopen
  (observation.status = .unknown || outcome.any fun reopen => reopen.admission = .unknown) &&
    observation.requestId = authority.requestId && observation.scope = authority.request.scope &&
    authority.observation = some observation && observation.admissionId = attempt.admissionId &&
    outcome.all fun reopen => reopen.scope = scope

def reopenConfirmed (attempt : AttemptView) (authority : RequestRecord)
    (observation : Observation) : Bool :=
  observation.requestId = authority.requestId && observation.scope = authority.request.scope &&
    authority.phase = .completed && authority.observation = some observation &&
    (authority.outcome.bind Outcome.reopen).any (fun reopen =>
      reopen.scope = scope && reopen.admission = .reopened) &&
    observation.status = .succeeded && observation.accepted && observation.terminal &&
    observation.admissionId.isSome && observation.admissionId = attempt.admissionId &&
    active context scope

def reopened (parkAuthority : RequestId) (observation : Observation) : Except CoreError Change := do
  if continuation.phase ≠ .reopening || continuation.parkAuthority ≠ some parkAuthority then
    return { state := state }
  let turn ← waitingTurn context continuation
  match continuation.reopenAuthority.bind context.records.record,
      attemptOf context turn.scope with
  | some authority, some attempt =>
    match reopenDecision context authority.request with
    | none => return { state := state }
    | some decision =>
      if !reopensWait continuation turn.scope attempt decision.2 then return { state := state }
      if reopenUnknown turn.scope attempt authority observation then
        return { state := state, requests := [cleanup context.run
          { requestId := some ⟨observation.requestId.root ++ "/inspect-reopen"⟩
            scope := authority.request.scope
            body := .inspectRequest observation.requestId none }] }
      if !reopenConfirmed context turn.scope attempt authority observation then
        return { state := state }
      let waiting := { continuation with phase := .waiting }
      authorize (store state waiting) context waiting true
  | _, _ => return { state := state }

/-! ## The events of the subarea -/

def continuationOf (identity : ContinuationId) : Option Continuation :=
  state.continuations.find? fun row => row.continuationId = identity

def advanceContinuations : EvaluationEvent → Except CoreError Change
  | .turnSuspended continuation => suspend state context continuation
  | .continuationJobsChanged resource observation => jobsChanged state context resource observation
  | .deadlineReached identity nowAt =>
    match continuationOf state identity with
    | none => .ok { state := state }
    | some continuation => reachDeadline state context continuation nowAt
  | .continuationRetireRequested identity disposition parkAuthority =>
    match continuationOf state identity with
    | none => .ok { state := state }
    | some continuation => retire state context continuation disposition parkAuthority
  | .continuationReopenRequested request normalization =>
    match continuationOf state normalization.continuationId with
    | none => refuse ["continuation_id"] "requires an owned parked continuation"
    | some continuation => reopen state context continuation request normalization
  | .continuationScopeReopened identity parkAuthority observation =>
    match continuationOf state identity with
    | none => .ok { state := state }
    | some continuation => reopened state context continuation parkAuthority observation
  | _ => refuse ["event", "kind"] "event is not owned by continuations"

end VibeServeCore.Evaluation
