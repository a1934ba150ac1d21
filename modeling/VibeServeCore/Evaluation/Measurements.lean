/- source: _measurements.py, _wait_clock.py
   digest: Measurement submission, canonical evidence ingress and job cleanup. -/

import Mathlib.Data.Rat.Floor
import VibeServeCore.Evaluation.Continuations
import VibeServeCore.RequestRecovery.Barrier

namespace VibeServeCore.Evaluation

open Types Proofs Clock
open RequestLedger (conclusive)
open RequestRecovery (cancelSettled)

def maxSubmissionsPerMeasurement : Nat := 5

def measurementDiagnosticLimit : Nat := 4000

def trailing (text : String) : String :=
  String.ofList (text.toList.drop (text.toList.length - measurementDiagnosticLimit))

def ownerText : Owner → String
  | .run id | .attempt id => id.root

def unrecorded (records : RecordsState) (requestId : RequestId) : Bool :=
  (records.find requestId).isEmpty

section
variable (digests : Digests)

variable (state : EvaluationState) (context : EvaluationContext) (job : OwnedJob) (scope : Scope)
  (plan : MeasurementPlan)

def current : Verdict (Option DecisionId) :=
  if context.run.status ≠ .running then .missing .unresolved
  else if scope.owner = .run context.run.runId then
    if scope.generation = context.run.generation then .proven none else .mismatch .generation
  else
    match context.attempts.attempts.find? fun row => scope.owner = .attempt row.attemptId with
    | none => .missing .absentDeclaration
    | some owner =>
      (currentAdmission owner scope owner.admissionId).andThen fun admission =>
        if owner.phase ≠ .active || owner.closure.isSome || owner.terminalReason.isSome then
          .missing .unresolved
        else .proven (some admission)

def measures (receipt : DecisionReceipt) : Bool :=
  match receipt.decision with
  | some (.work ⟨_, owner, .measure asked⟩) => owner = scope && asked = plan
  | _ => false

def measureOrigin : Verdict DecisionId :=
  match (context.run.receipts.filter (measures scope plan)).getLast? with
  | none => .missing .absentReceipt
  | some receipt =>
    (acceptedReceiptFor digests context.run.receipts (some receipt.decisionId)
      receipt.decision).andThen fun accepted => .proven accepted.decisionId

def snapshotRevision (requestId : RequestId) : Verdict RevisionRef :=
  match context.records.find requestId with
  | [row] =>
    match row.request.body with
    | .snapshotAndRetain .. =>
      if row.request.scope ≠ scope then .mismatch .scope
      else if !(requestMatches digests row row.request).isProven then .mismatch .payload
      else
        match row.observation with
        | none => .missing .absentObservation
        | some observation =>
          (observationFor row observation).andThen fun observation =>
            if !observation.accepted || !observation.terminal ||
                observation.status ≠ .succeeded then .missing .absentCheckpoint
            else
              match ((context.attempts.attempts.filter fun owner =>
                  owner.ref.scope = scope).flatMap AttemptView.checkpoints).filter
                    fun checkpoint => checkpoint.requestId = row.requestId with
              | [checkpoint] => .proven checkpoint.revision
              | _ => .missing .absentCheckpoint
    | _ => .mismatch .scope
  | _ => .missing .absentRequest

def resolvedPlan : Verdict MeasurementPlan :=
  match plan.candidate with
  | .revision _ => .proven plan
  | .snapshotResult requestId =>
    (snapshotRevision digests context scope requestId).andThen fun revision =>
      .proven { plan with candidate := .revision revision }

def identityOf : Verdict MeasurementIdentity :=
  match plan.candidate.revision? with
  | none => .missing .absentCheckpoint
  | some candidate =>
    match MeasurementIdentity.fromPlan plan candidate with
    | some identity => .proven identity
    | none => .mismatch .payload

def jobIdentity : Verdict MeasurementIdentity :=
  match job.origin with
  | .measurement _ plan => identityOf plan
  | .registered _ _ _ (some expected) => .proven expected
  | .registered _ _ _ none => .missing .absentDeclaration

def submissionOrigin (source : RequestRecord) (plan : MeasurementPlan) : Verdict Unit :=
  let request := source.request
  match request.decisionId with
  | none =>
    if state.agentCalls.any fun call =>
        call.requestId = some source.requestId && call.scope = request.scope then .proven ()
    else .missing .absentReceipt
  | some decisionId =>
    (acceptedReceiptFor digests context.run.receipts (some decisionId) none).andThen fun receipt =>
      match receipt.decision with
      | some (.work ⟨_, scope, .measure asked⟩) =>
        if scope ≠ request.scope || source.requestId ∉ receipt.requestIds then .mismatch .requestId
        else
          (resolvedPlan digests context request.scope asked).andThen fun resolved =>
            if resolved ≠ plan then .mismatch .payload else .proven ()
      | _ => .mismatch .requestId

def jobSource (source : RequestRecord) : Verdict OwnedJob :=
  let request := source.request
  if job.origin.submission ≠ source.requestId || job.scope ≠ request.scope then
    .mismatch .requestId
  else
    match job.origin, request.body with
    | .measurement _ plan, .submitMeasurement asked =>
      if asked ≠ plan then .mismatch .payload
      else
        (submissionOrigin digests state context source asked).andThen fun _ =>
          (submissionBudgetFor digests request state.submissionBudgets
            context.run.receipts).andThen fun _ => .proven job
    | .measurement _ _, _ => .mismatch .payload
    | .registered _ _ _ expected, .executeRegisteredOperation .. =>
      (operationFor digests context.run.receipts request).andThen fun operation =>
        if operation.command.registeredMeasurement = expected then .proven job
        else .mismatch .normalization
    | .registered .., _ => .mismatch .lifecycle

def leasesReleased (context : EvaluationContext) (scope : Scope) :
    Nat → List ResourceId → List ResourceId → Option Bool
  | _, [], _ => some true
  | 0, _ :: _, _ => none
  | fuel + 1, resource :: pending, seen =>
    if resource ∈ seen then leasesReleased context scope fuel pending seen
    else
      match context.records.children.filter fun child =>
          child.resourceId = resource && child.scope = scope with
      | [child] =>
        if !(releasedChild digests child context.records.records).isProven then some false
        else
          leasesReleased context scope fuel
            ((child.observationWatermarks.flatMap fun mark => mark.observation.descendants).reverse ++
              pending)
            (resource :: seen)
      | _ => some false

def namedByJob : List ResourceId := (jobDiscovers job).eraseDups.reverse

def markedResources (records : RecordsState) : List ResourceId :=
  records.children.flatMap fun child =>
    child.observationWatermarks.flatMap fun mark => mark.observation.descendants

def descendantsReleased : Bool :=
  (leasesReleased digests context job.scope
    ((namedByJob job).length + (markedResources context.records).length) (namedByJob job) []).getD
      false

def submissionReleased (requestId : RequestId) : Bool :=
  match state.allJobs.filter fun job => job.origin.submission = requestId with
  | [job] =>
    (releasedJob digests job context.records.records).isProven &&
      descendantsReleased digests context job
  | _ => false

def budgetReady (budget : Option SubmissionBudget) : Bool :=
  match budget with
  | none => true
  | some budget =>
    match budget.receipts.getLast? with
    | none => true
    | some (.prepared requestId _ (some observation) failure) =>
      conclusive observation && failure.any MeasurementFailure.retryable &&
        (!observation.accepted || submissionReleased digests state context requestId) &&
        budget.receipts.length < min budget.limit maxSubmissionsPerMeasurement
    | some _ => false

end

def rejected (state : EvaluationState) (scope : Scope) (failure : Option MeasurementFailure) :
    Change where
  state := state
  events := [.measurementResult
    { scope, evidence := [], status := .rejected, failure }]

section
variable (digests : Digests) (key : MeasurementIdentity → String) (state : EvaluationState)
  (context : EvaluationContext) (scope : Scope) (plan : MeasurementPlan)
  (identity : MeasurementIdentity)

def reusableCapture (evidence : EvidenceRef) : Bool :=
  match identityOf plan with
  | .proven identity =>
    match state.allJobs.filter fun job =>
        job.origin.submission = evidence.sourceRequest && evidence ∈ job.evidence with
    | [job] =>
      (context.records.record evidence.sourceRequest).any fun source =>
        (jobSource digests state context job source).isProven &&
          (jobIdentity job).value? = some identity && evidence.scope = scope &&
          evidence.kind = .profiling && evidence.provenance = .trusted &&
          evidence.status = .succeeded &&
          evidence.acceptanceReceipt.any Observation.terminal &&
          evidence.purpose = identity.purpose && evidence.candidate = identity.candidate &&
          evidence.fingerprints = identity.fingerprints
    | _ => false
  | _ => false

def reused : List EvidenceRef :=
  if plan.purpose ≠ .profile then []
  else state.evidence.filter (reusableCapture digests state context scope plan)

def budgetsOf : List SubmissionBudget :=
  state.submissionBudgets.filter fun budget => budget.scope = scope && budget.identity = identity

def submissionId (ordinal : Nat) : RequestId :=
  ⟨"measurement:" ++ ownerText scope.owner ++ ":" ++ toString scope.generation ++ ":" ++
    key identity ++ ":" ++ toString ordinal⟩

structure SubmissionAsker where
  scope : Scope
  decisionId : Option DecisionId
  limit : Option Within := none

def allocate (asker : SubmissionAsker) (plan : MeasurementPlan) (budget : Option SubmissionBudget) :
    Change :=
  let scope := asker.scope
  match identityOf plan, current context scope with
  | .proven identity, .proven admission =>
    if !(context.run.deadlineAt > context.run.nowAt) ||
        asker.limit.any fun limit => limit.limit ≤ 0 then
      rejected state scope none
    else
      let budget := budget.getD
        { scope, identity, limit := maxSubmissionsPerMeasurement }
      let ordinal := budget.receipts.length + 1
      let requestId := submissionId key scope budget.identity ordinal
      let updated := { budget with
        receipts := budget.receipts ++ [.prepared requestId ordinal none none] }
      let request : Request :=
        { requestId := some requestId, scope, admissionId := admission
          decisionId := asker.decisionId, body := .submitMeasurement plan }
      let limit : UntilSpec := match asker.decisionId, asker.limit with
        | none, some limit => .within limit
        | _, _ => .inherited
      { state := { state with
          submissionBudgets :=
            if budget ∈ state.submissionBudgets then
              state.submissionBudgets.map fun row => if row = budget then updated else row
            else state.submissionBudgets ++ [updated] }
        requests := [⟨request, limit⟩] }
  | _, _ => rejected state scope none

def workloadFailure (budget : Option SubmissionBudget) : Option MeasurementFailure :=
  if (budget.map SubmissionBudget.receipts).any fun receipts => receipts.any fun receipt =>
      match receipt with
      | .prepared _ _ _ failure => failure = some .workload
      | .historical _ _ => false then
    some .workload
  else none

def admitPlan (asker : SubmissionAsker) (plan : MeasurementPlan) (identity : MeasurementIdentity) :
    Change :=
  let budgets := budgetsOf state asker.scope identity
  let budget := budgets.head?
  if budgets.length > 1 || !budgetReady digests state context budget then
    rejected state asker.scope (workloadFailure budget)
  else allocate key state context asker plan budget

def submittedBy (records : RecordsState) (decisionId : DecisionId) : Bool :=
  records.records.any fun row =>
    match row.request.body with
    | .submitMeasurement _ => row.request.decisionId = some decisionId
    | _ => false

def measurementRequested (asked : MeasurementPlan) : Change :=
  match current context scope, measureOrigin digests context scope asked,
      resolvedPlan digests context scope asked with
  | .proven _, .proven decisionId, .proven plan =>
    match identityOf plan with
    | .proven identity =>
      let captures := reused digests state context scope plan
      if !captures.isEmpty then
        { state := state
          events := [.measurementResult
            { scope, evidence := captures, status := .succeeded }] }
      -- Replayed commands never allocate another ordinal, including changed timing.
      else if submittedBy context.records decisionId then { state := state }
      else admitPlan digests key state context { scope, decisionId := some decisionId } plan
        identity
    | _ => rejected state scope none
  | _, _, _ => rejected state scope none

def recorded (change : Change) (call : AgentCall) : Change :=
  { change with
    state := { change.state with agentCalls := change.state.agentCalls ++ [call] }, events := [] }

def deadlineOf (requestId : RequestId) : Option Seconds :=
  match state.agentCalls.find? fun call =>
      call.requestId = some requestId && !call.repeat_ && call.deadlineAt.isSome with
  | some call => call.deadlineAt
  | none =>
    (context.records.record requestId).bind fun row =>
      match row.request.body with
      | .submitMeasurement _ => some row.until_.at_
      | _ => none

def repeatedSubmission : Option (RequestId × Seconds) :=
  match budgetsOf state scope identity with
  | [budget] =>
    if budgetReady digests state context (some budget) then none
    else
      match budget.receipts.getLast? with
      | some (.prepared requestId _ _ _) =>
        (deadlineOf state context requestId).map fun deadline => (requestId, deadline)
      | _ => none
  | _ => none

def sentSubmission (change : Change) : Option (RequestId × UntilSpec) :=
  change.requests.findSome? fun outbound =>
    match outbound.request.body with
    | .submitMeasurement _ => outbound.request.requestId.map fun requestId =>
      (requestId, outbound.until_)
    | _ => none

def deadlineAt : UntilSpec → Except CoreError Seconds
  | .until stored => .ok stored.at_
  | .within limit => .ok (resolveUntil context.run limit).at_
  | .inherited | .fromDispatch _ _ =>
    refuse ["until"] "an agent submission has an explicit limit"

def agentMeasurementRequested (limit : Within) (callId : String) : Except CoreError Change :=
  let call : AgentCall := { callId := callId, scope }
  let refused (rejection : AgentRejection) : Change :=
    recorded { state := state } { call with rejection := some rejection }
  if state.agentCalls.any fun call => call.callId = callId then .ok { state := state }
  else if context.run.status ≠ .running then .ok (refused .runStopping)
  else if !(current context scope).isProven then .ok (refused .notAdmitted)
  else
    match identityOf plan with
    | .proven identity =>
      match repeatedSubmission digests state context scope identity with
      | some (requestId, deadline) =>
        .ok (recorded { state := state } { call with
          requestId := some requestId, deadlineAt := some deadline, repeat_ := true })
      | none =>
        -- `_capped`: no longer than the plan's declared stages and queue allowance.
        let capped := { limit with limit := min limit.limit plan.timeBound }
        let change := admitPlan digests key state context
          { scope, decisionId := none, limit := some capped } plan identity
        match sentSubmission change with
        | none => .ok (refused .notAllowed)
        | some (requestId, until_) =>
          (deadlineAt context until_).map fun deadline =>
            recorded change { call with requestId := some requestId, deadlineAt := some deadline }
    | _ => .ok (refused .invalidPlan)

end

def reportedToStrategy (context : EvaluationContext) (job : OwnedJob) : Bool :=
  match job.origin with
  | .registered .. => true
  | .measurement submission _ =>
    !((context.records.record submission).any fun row =>
      match row.request.body with
      | .submitMeasurement _ => row.request.decisionId.isNone
      | _ => false)

def heldMismatch (held : Option Observation) (observation : Observation) (later : Bool) :
    Option (Verdict RequestRecord) :=
  if !later then if held = some observation then none else some (.mismatch .payload)
  else
    match held with
    | none => some (.missing .absentObservation)
    | some held =>
      if observation.sequence < held.sequence then some (.mismatch .sequence)
      else if observation.sequence = held.sequence && held ≠ observation then
        some (.mismatch .payload)
      else none

section
variable (digests : Digests) (state : EvaluationState) (context : EvaluationContext)
  (job : OwnedJob) (observation : Observation) (owner : RequestId) (scope : Scope)
  (failure : Option MeasurementFailure)

def observedSource (later : Bool) : Verdict RequestRecord :=
  match context.records.find observation.requestId with
  | [] => .missing .absentRequest
  | [row] =>
    (requestMatches digests row row.request).andThen fun _ =>
      (observationFor row observation).andThen fun _ =>
        match heldMismatch row.observation observation later with
        | some refused => refused
        | none => if row.lifecycle ≠ .ownedJob then .mismatch .lifecycle else .proven row
  | _ => .mismatch .requestId

def resourceTaken : Bool :=
  observation.resourceId.isSome && state.allJobs.any fun job =>
    job.resourceId = observation.resourceId && job.origin.submission ≠ owner

def canonicalFailure (claim : Option MeasurementFailure) (hasFacts : Bool) :
    Option MeasurementFailure :=
  match claim with
  | none => none
  | some claim =>
    if !conclusive observation then none
    else if observation.accepted && observation.status = .succeeded then none
    else if observation.accepted && claim.retryable && hasFacts then some .unknown
    else some claim

def renewedReceipt (budget : SubmissionBudget) (observation : Observation)
    (failure : Option MeasurementFailure) (source : RequestRecord) : Verdict SubmissionBudget :=
  match budget.receipts.filter fun receipt =>
      preparedRequest receipt = some observation.requestId with
  | [.prepared requestId ordinal held claimed] =>
    (freshObservation held observation).andThen fun _ =>
      if held = some observation || claimed = some .workload then .missing .unresolved
      else
        let updated := SubmissionReceipt.prepared requestId ordinal (some observation)
          (canonicalFailure observation failure source.evaluationResult.isSome)
        .proven { budget with
          receipts := budget.receipts.map fun receipt =>
            if receipt = .prepared requestId ordinal held claimed then updated else receipt }
  | _ => .missing .absentReceipt

def withBudget (old new : SubmissionBudget) : EvaluationState :=
  { state with
    submissionBudgets := state.submissionBudgets.map fun row => if row = old then new else row }

def submissionJob (source : RequestRecord) (plan : MeasurementPlan) : Change :=
  let unowned := !(state.jobs.any fun job => job.origin.submission = source.requestId)
  if unowned && observation.accepted && observation.resourceId.isSome then
    { state := { state with jobs := state.jobs ++ [
        { origin := .measurement source.requestId plan
          resourceId := observation.resourceId
          scope := source.request.scope
          status := .pending
          -- A job nobody has polled is due now.
          wait := some { timer := some context.run.nowAt } }] } }
  else if observation.terminal && !observation.accepted && source.request.decisionId.isSome then
    { state := state
      events := [.measurementResult
        { scope := source.request.scope, sourceRequest := some observation.requestId
          evidence := [], status := observation.status, failure }] }
  else { state := state }

def submissionReceipted : Change :=
  match observedSource digests context observation false with
  | .proven source =>
    match source.request.body with
    | .submitMeasurement plan =>
      if resourceTaken state observation source.requestId then { state := state }
      else
        match submissionBudgetFor digests source.request state.submissionBudgets
            context.run.receipts with
        | .proven budget =>
          match renewedReceipt budget observation failure source with
          | .proven updated =>
            submissionJob (withBudget state budget updated) context observation failure source plan
          | _ => { state := state }
        | _ => { state := state }
    | _ => { state := state }
  | _ => { state := state }

def deferredWake : List Signal :=
  if !conclusive observation then []
  else
    (state.continuations.filter fun row => row.phase = .waiting).filterMap fun continuation =>
      match state.allJobs.find? fun job =>
          job.resourceId.any (· ∈ continuation.jobs) && job.scope = scope &&
            job.observation.isSome with
      | some job =>
        match job.resourceId, job.observation with
        | some resource, some fact => some (.evaluation (.continuationJobsChanged resource fact))
        | _, _ => none
      | none => none

def historySignals : Except CoreError (List Signal) :=
  match attemptOf context scope with
  | none => .ok []
  | some owner =>
    (produceHistory scope state context.records owner context.run).map fun history =>
      if history = owner.evaluationHistory ||
          owner.evaluationHistory.records.any (· ∉ history.records) then []
      else [.attempts (.evaluationHistoryUpdated owner.ref history)]

def submissionObserved : Except CoreError Change := do
  let change := submissionReceipted digests state context observation failure
  match observedSource digests context observation false with
  | .proven source =>
    match source.request.body with
    | .submitMeasurement _ =>
      if !conclusive observation then return change
      let wakes := deferredWake change.state observation source.request.scope
      -- A waiting continuation derives and publishes the history itself when it authorizes.
      let history ← if wakes.isEmpty then
          historySignals change.state context source.request.scope
        else pure []
      return { change with signals := change.signals ++ history ++ wakes }
    | _ => return change
  | _ => return change

def registeredRequested (request : Request) (resourcePool : PoolId)
    (expected : Option MeasurementIdentity) : Change :=
  match operationFor digests context.run.receipts request, current context request.scope,
      request.body, request.requestId with
  | .proven operation, .proven _, .executeRegisteredOperation operationId wire _ _,
      some requestId =>
    let identity := operation.command.registeredMeasurement
    if wire.schemaRef.lifecycle ≠ .ownedJob || expected ≠ identity then
      rejected state request.scope none
    else
      let job : OwnedJob :=
        { origin := .registered requestId operationId resourcePool identity
          resourceId := none
          scope := request.scope
          -- Its operation's answer names the job; until then that request is what moves it.
          wait := some { requests := [requestId] } }
      match state.registeredJobs.filter fun row =>
          row.origin.submission = requestId || (match row.origin with
            | .registered _ operation _ _ => decide (operation = operationId)
            | .measurement _ _ => false) with
      | [] =>
        let charged (budgets : List SubmissionBudget) : Change :=
          { state := { state with
              registeredJobs := state.registeredJobs ++ [job], submissionBudgets := budgets }
            requests := [⟨request, .inherited⟩] }
        match identity with
        | none => charged state.submissionBudgets
        | some identity =>
          if !(budgetsOf state request.scope identity).isEmpty then
            rejected state request.scope none
          else
            charged (state.submissionBudgets ++ [
              { scope := request.scope, identity, limit := 1
                receipts := [.prepared requestId 1 none none] }])
      | [existing] =>
        if existing.scope = request.scope && expectedMeasurement existing = identity then
          { state := state }
        else rejected state request.scope none
      | _ => rejected state request.scope none
  | _, _, _, _ => rejected state request.scope none

structure JobReport where
  job : ResourceId ⊕ OperationId
  observation : Observation
  facts : JobFacts
  failure : Option MeasurementFailure := none

def requiredStages (identity : MeasurementIdentity) (kind : EvidenceKind) : List String :=
  match kind, identity.accuracyStage with
  | .correctness, some stage => [stage]
  | _, _ => identity.stages.map MeasurementStageIdentity.stageId

def stageOutcome (facts : EvaluationTerminalFacts) (stage : String) :
    Option EvaluationStageOutcome :=
  (facts.stages.reverse.find? fun row => row.stageId = stage).map EvaluationStageResult.outcome

def scientificEvidence (report : JobReport) (evidence : EvidenceRef)
    (identity : MeasurementIdentity) : Bool :=
  evidence.status ≠ .succeeded ||
    report.facts.evaluationResult.any fun facts =>
      report.observation.status = .succeeded &&
        (evidence.kind ∉ identity.accuracyGated || facts.accuracyPassed) &&
        (requiredStages identity evidence.kind).all (fun stage =>
          stageOutcome facts stage = some .passed) &&
        (evidence.kind ≠ .benchmark || facts.failedBenchmark.isNone)

def acceptedEvidence (report : JobReport) (evidence : EvidenceRef) : Verdict EvidenceRef :=
  let observation := report.observation
  (jobIdentity job).andThen fun expected =>
    if evidence.scope ≠ job.scope then .mismatch .scope
    else if evidence.sourceRequest ≠ job.origin.submission then .mismatch .requestId
    else if evidence.candidate ≠ expected.candidate then .mismatch .revision
    else if evidence.observationSequence ≠ observation.sequence then .mismatch .sequence
    else if evidence.purpose ≠ expected.purpose then .mismatch .payload
    else if evidence.fingerprints ≠ expected.fingerprints then .mismatch .digest
    else if !scientificEvidence report evidence expected || !observation.accepted ||
        !conclusive observation || evidence.status = .unknown || evidence.status = .pending then
      .missing .unresolved
    else
      -- The receipt's status is scientific, and can differ from successful execution.
      let receipt := { observation with status := evidence.status }
      if evidence.acceptanceReceipt.any fun held => held ≠ receipt then .mismatch .payload
      else .proven { evidence with acceptanceReceipt := some receipt }

structure EvidenceBatch where
  accepted : List EvidenceRef
  ledger : List EvidenceRef
  refused : Bool := false

def storeEvidence (report : JobReport) (batch : EvidenceBatch) (evidence : EvidenceRef) :
    EvidenceBatch :=
  match acceptedEvidence job report evidence with
  | .proven incoming =>
    match batch.ledger.find? fun held => held.key = incoming.key with
    | none =>
      { batch with ledger := batch.ledger ++ [incoming], accepted := batch.accepted ++ [incoming] }
    | some previous =>
      if previous ≠ incoming then { batch with refused := true }
      else if incoming ∈ batch.accepted then batch
      else { batch with accepted := batch.accepted ++ [incoming] }
  | _ => batch

def storeBatch (report : JobReport) : EvidenceBatch :=
  report.facts.evidence.foldl (storeEvidence job report)
    { accepted := job.evidence, ledger := state.evidence }

def sideFacts (facts : JobFacts) : Bool :=
  let stages := (jobIdentity job).value?.map fun identity =>
    identity.stages.map MeasurementStageIdentity.stageId
  (facts.progress.bind JobProgress.stageId).all (fun stage =>
      stages.all fun names => stage ∈ names) &&
    facts.evaluationResult.all fun result =>
      stages.any fun names => result.stages.all fun row => row.stageId ∈ names

def incomingJob (source : RequestRecord) (report : JobReport) : Verdict OwnedJob :=
  let observation := report.observation
  if observation.resourceId.isNone ||
      (job.resourceId.isSome && observation.resourceId ≠ job.resourceId) then
    .mismatch .resourceId
  else
    (freshObservation job.observation observation).andThen fun _ =>
      if source.observation = some observation &&
          source.evaluationResult ≠ report.facts.evaluationResult then .mismatch .payload
      else if !sideFacts job report.facts then .mismatch .payload
      else if job.observation.any fun held =>
          observation.observedAt < held.observedAt ||
            (job.terminal && !conclusive observation) ||
            (job.released && !observation.released) then .mismatch .sequence
      else .proven job

def reportedJobs : ResourceId ⊕ OperationId → List OwnedJob
  | .inl resource => state.jobs.filter fun job => job.resourceId = some resource
  | .inr operationId => state.registeredJobs.filter fun job =>
    match job.origin with
    | .registered _ operation _ _ => operation = operationId
    | .measurement _ _ => false

def observedOwner (report : JobReport) : Verdict OwnedJob :=
  (observedSource digests context report.observation report.job.isLeft).andThen fun source =>
    match reportedJobs state report.job with
    | [job] =>
      (jobSource digests state context job source).andThen fun job =>
        if resourceTaken state report.observation source.requestId then .mismatch .resourceId
        else incomingJob job source report
    | _ => .missing .absentResource

def doubledDelay (cap : Seconds) : Nat → Seconds → Seconds
  | 0, delay => delay
  | rounds + 1, delay =>
    let doubled := min (delay * 2) cap
    if doubled = cap then doubled else doubledDelay cap rounds doubled

def backedOff (context : EvaluationContext) : OwnedJob :=
  let limits := context.run.limits
  let retries := job.pacing.retries + 1
  let delay := doubledDelay limits.observeBackoffCap (retries - 1) limits.observeInterval
  { job with pacing := ⟨retries⟩, wait := some { timer := some (context.run.nowAt + delay) } }

def nextPoll (context : EvaluationContext) : OwnedJob :=
  if observation.terminal then { job with pacing := {}, wait := none }
  else if !observation.accepted then backedOff job context
  else
    { job with
      pacing := {}
      wait := some { timer := some (context.run.nowAt + context.run.limits.observeInterval) } }

def takenJob (report : JobReport) (accepted : List EvidenceRef) : OwnedJob :=
  let observation := report.observation
  { nextPoll job observation context with
    resourceId := observation.resourceId, observation := some observation
    progress := report.facts.progress.or job.progress, status := observation.status
    terminal := observation.terminal, released := observation.released
    children := (job.children ++ observation.children).eraseDups, evidence := accepted
    queueCredit := credited job observation context.run.limits context.records.hosts }

def withJob (old new : OwnedJob) : EvaluationState :=
  let swap := fun row => if row = old then new else row
  match old.origin with
  | .measurement .. => { state with jobs := state.jobs.map swap }
  | .registered .. => { state with registeredJobs := state.registeredJobs.map swap }

def jobBudget (claim : Option MeasurementFailure) : EvaluationState :=
  match job.observation, context.records.record job.origin.submission with
  | some observation, some source =>
    match submissionBudgetFor digests source.request state.submissionBudgets
        context.run.receipts with
    | .proven budget =>
      let held := budget.receipts.findSome? fun receipt =>
        match receipt with
        | .prepared requestId _ _ failure =>
          if requestId = job.origin.submission then some failure else none
        | .historical _ _ => none
      match renewedReceipt budget observation ((held.getD none).or claim) source with
      | .proven updated => withBudget state budget updated
      | _ => state
    | _ => state
  | _, _ => state

def noticeDue (before : Seconds) (limits : Limits) : Bool :=
  pending job &&
    ⌊job.queueCredit / limits.queueNoticeInterval⌋ > ⌊before / limits.queueNoticeInterval⌋

def queuedNotice (updated job : OwnedJob) (context : EvaluationContext) : List StrategyEvent :=
  let limits := context.run.limits
  match updated.resourceId with
  | none => []
  | some resource =>
    if !noticeDue updated job.queueCredit limits then []
    else
      [.jobQueued
        { scope := updated.scope, resourceId := resource
          sourceRequest := updated.origin.submission, queuedS := updated.queueCredit
          budgetLeftS := max (limits.queueWaitBudget - updated.queueCredit) 0
          pendingReason := updated.progress.bind JobProgress.pendingReason }]

def handedEnd (report : JobReport) : List Signal :=
  let observation := report.observation
  match job.origin with
  | .registered .. => []
  | .measurement submission _ =>
    if !conclusive observation || job.observation.any conclusive then []
    else
      match context.records.record submission with
      | none => []
      | some record =>
        if record.phase = .prepared || (record.phase = .completed &&
            record.observation.all fun held => held.released || !observation.released) then []
        else
          [.records (.requestObserved
            { observation, evaluationResult := report.facts.evaluationResult })]

def historyUnlessAwaited : Except CoreError (List Signal) :=
  if job.resourceId.any fun resource => conclusive observation &&
      state.continuations.any fun row => row.phase = .waiting && resource ∈ row.jobs then .ok []
  else historySignals state context job.scope

def publishedResult (report : JobReport) (evidence : List EvidenceRef)
    (failure : Option MeasurementFailure) : StrategyEvent :=
  .measurementResult
    { scope := job.scope, sourceRequest := some job.origin.submission, evidence
      status := report.observation.status, failure
      diagnostic := trailing report.observation.diagnostic
      operatorDiagnostic := trailing report.facts.operatorDiagnostic }

def resultEvents (report : JobReport) (batch : EvidenceBatch) (claim : Option MeasurementFailure) :
    List StrategyEvent :=
  if !conclusive report.observation || !reportedToStrategy context job then []
  else
    -- A refused evidence id is reported as an unclassified failure, never hidden.
    let failure := if batch.refused then some .unknown else claim
    let newly := batch.accepted.filter (· ∉ job.evidence)
    if !(job.observation.any conclusive) then
      [publishedResult job report batch.accepted failure]
    else if !newly.isEmpty || batch.refused then [publishedResult job report newly failure]
    else []

inductive JobStep
  | observe | inspect | cancel | collect
  deriving DecidableEq

def JobStep.body (step : JobStep) (resource : ResourceId) : RequestBody :=
  match step with
  | .observe => .observeOwnedJob resource
  | .inspect => .inspectOwnedJob resource
  | .cancel => .cancelOwnedJob resource
  | .collect => .collectEvidence resource

def stepPrefix (action : String) : String :=
  "measurement:" ++ job.origin.submission.root ++ ":" ++ action

def endedUnanswered (row : RequestRecord) : Bool := row.phase = .blocked || row.failure.isSome

def resendSuffix (base : String) : String :=
  let blocked := (context.records.records.filter fun row =>
    endedUnanswered row && (row.requestId.root = base ||
      (base ++ ":resend-").toList.isPrefixOf row.requestId.root.toList)).length
  if blocked = 0 then "" else ":resend-" ++ toString blocked

def stepId (step : JobStep) (job : OwnedJob) (context : EvaluationContext) (action : String) :
    RequestId :=
  let base := stepPrefix job action
  let named := base ++ ":" ++ toString ((job.observation.map Observation.sequence).getD 0)
  match step with
  | .collect => ⟨base⟩
  | .cancel => ⟨named ++ resendSuffix context named⟩
  | .observe | .inspect => ⟨named⟩

def jobRequest (step : JobStep) (job : OwnedJob) (context : EvaluationContext) (action : String) :
    Except CoreError Request :=
  match job.resourceId with
  | none => refuse ["job", "resource_id"] "cannot request an unidentified job"
  | some resource =>
    let canonical := context.records.record job.origin.submission
    .ok
      { requestId := some (stepId step job context action)
        scope := job.scope
        admissionId := canonical.bind fun row => row.request.admissionId
        decisionId := if step = .collect then none
          else canonical.bind fun row => row.request.decisionId
        body := step.body resource }

def jobOutbound (step : JobStep) (job : OwnedJob) (context : EvaluationContext) (action : String) :
    Except CoreError Outbound :=
  let limits := context.run.limits
  (jobRequest step job context action).map fun request =>
    within request (if step = .cancel then limits.cancellationBound else limits.reconciliationBound)

def cancellingScope : Option Scope :=
  match committedStop digests context.run with
  | .proven stop =>
    if context.run.status = .closing &&
        (stop.mode = .cancel || context.run.deadlineAt ≤ context.run.nowAt) then some stop.scope
    else none
  | _ => none

def collection (updated : OwnedJob) : Except CoreError (List Outbound) :=
  if conclusive observation && observation.accepted && updated.evidence.isEmpty &&
      cancellingScope digests context ≠ some updated.scope &&
      unrecorded context.records (stepId .collect updated context "evidence") then
    (jobOutbound .collect updated context "evidence").map ([·])
  else .ok []

def observedSignals (next : EvaluationState) (context : EvaluationContext) (job : OwnedJob)
    (report : JobReport) (resource : ResourceId) : Except CoreError (List Signal) :=
  match handedEnd context job report with
  | [] => (historyUnlessAwaited next context job report.observation).map fun history =>
    history ++ [.evaluation (.continuationJobsChanged resource report.observation)]
  -- While the ledger has to take the job's end, the history and the wake wait for it.
  | closing => .ok closing

def jobObserved (report : JobReport) : Except CoreError Change :=
  match observedOwner digests state context report with
  | .proven job =>
    let observation := report.observation
    if job.observation = some observation then .ok { state := state }
    else
      match observation.resourceId with
      | none => .ok { state := state }
      | some resource => do
        let batch := storeBatch state job report
        let updated := takenJob context job report batch.accepted
        let claim := canonicalFailure observation report.failure
          report.facts.evaluationResult.isSome
        let next := jobBudget digests
          { withJob state job updated with evidence := batch.ledger } context updated claim
        let requests ← collection digests context observation updated
        let signals ← observedSignals next context job report resource
        return {
          state := next
          signals := signals
          requests := if context.run.status = .terminal then [] else requests
          events := queuedNotice updated job context ++
            resultEvents context job report batch claim }
  | _ => .ok { state := state }

def poll (context : EvaluationContext) : Except CoreError (RequestId × Outbound) :=
  let base := stepId .observe job context "observe"
  let lapsed (count : Nat) : RequestId := ⟨base.root ++ ":b" ++ toString count⟩
  let identity :=
    if unrecorded context.records base then base
    else
      -- Among one more identity than there are records, one is free.
      lapsed (((List.range (context.records.records.length + 1)).map (· + 1)).find? (fun count =>
        unrecorded context.records (lapsed count)) |>.getD 0)
  (jobOutbound .observe job context "observe").map fun outbound =>
    (identity, { outbound with request := { outbound.request with requestId := some identity } })

def releasePoll (nowAt : Seconds) (job : OwnedJob) : Except CoreError (OwnedJob × List Outbound) :=
  match job.wait.bind WaitOn.timer with
  | none => .ok (job, [])
  | some timer =>
    if timer > nowAt then .ok (job, [])
    else
      (poll job context).map fun sent =>
        ({ job with wait := some { requests := [sent.1] } }, [sent.2])

def pollDue (nowAt : Seconds) : Except CoreError Change :=
  if context.run.status = .terminal then .ok { state := state }
  else do
    let jobs ← state.jobs.mapM (releasePoll context nowAt)
    let registered ← state.registeredJobs.mapM (releasePoll context nowAt)
    return {
      state := { state with jobs := jobs.map (·.1), registeredJobs := registered.map (·.1) }
      requests := (jobs ++ registered).flatMap (·.2) }

def wokenJob (requestId : RequestId) (job : OwnedJob) : OwnedJob :=
  match job.wait, context.records.record requestId with
  | some wait, some ended =>
    if job.origin.submission ≠ owner || requestId ∉ wait.requests || ended.inFlight then job
    else if job.resourceId.isSome then backedOff job context
    else
      { job with
        status := (ended.observation.map Observation.status).getD .unknown, terminal := true
        released := ended.observation.any Observation.released, wait := none }
  | _, _ => job

def waitLapsed (requestId : RequestId) : Change where
  state := { state with
    jobs := state.jobs.map (wokenJob context owner requestId)
    registeredJobs := state.registeredJobs.map (wokenJob context owner requestId) }

def nextStep (cancelUnconfirmed : Bool) : JobStep × String :=
  let unconfirmed := job.observation.all fun observation =>
    observation.status = .unknown || !observation.accepted
  if unconfirmed && !(cancelUnconfirmed && job.observation.isSome) then (.inspect, "inspect")
  else if job.terminal then (.inspect, "release")
  else (.cancel, "cancel")

def terminate (resource : ResourceId) (cancelUnconfirmed : Bool) :
    Except CoreError (List Outbound) :=
  match holdingJobs state resource with
  | [job] =>
    if (releasedJob digests job context.records.records).isProven then .ok []
    else
      match context.records.record job.origin.submission with
      | none => .ok []
      | some source =>
        if !(requestMatches digests source source.request).isProven ||
            !(jobSource digests state context job source).isProven then .ok []
        else
          let step := nextStep job cancelUnconfirmed
          (jobOutbound step.1 job context step.2).map fun outbound =>
            if unrecorded context.records (stepId step.1 job context step.2) then [outbound]
            else []
  | _ => .ok []

def terminateAll (jobs : List OwnedJob) (cancelUnconfirmed : ResourceId → Bool) :
    Except CoreError (List Outbound) :=
  ((jobs.filterMap OwnedJob.resourceId).mapM fun resource =>
    terminate digests state context resource (cancelUnconfirmed resource)).map List.flatten

def drain (authority : RequestId) (disposition : ClosureDisposition) : Except CoreError Change :=
  match context.attempts.attempts.filter fun owner => owner.ref.scope = scope with
  | [owner] =>
    let closing := (currentClosure owner owner.closure).value?.any fun closure =>
      closure.authority = authority && closure.disposition = disposition
    let canonical := (context.records.record authority).any fun record =>
      match record.request.body with
      | .closeAttemptScope _ =>
        (requestMatches digests record record.request).isProven && record.request.scope = scope
      | _ => false
    if !closing || !canonical then .ok { state := state }
    else
      (terminateAll digests state context (state.allJobs.filter fun job => job.scope = scope)
        fun _ => false).map fun requests => { state := state, requests }
  | _ => .ok { state := state }

def inspectedBefore (resource : ResourceId) : Bool :=
  (context.records.aboutResource resource).any fun row =>
    match row.request.body with
    | .inspectOwnedJob _ => true
    | _ => false

def terminationInspected : Bool :=
  job.resourceId.any fun resource =>
    (context.records.aboutResource resource).any fun row =>
      match row.request.body with
      | .inspectOwnedJob _ =>
        (stepPrefix job "inspect" ++ ":").toList.isPrefixOf row.requestId.root.toList
      | _ => false

def closingScopes : List Scope :=
  (context.attempts.attempts.filter fun owner =>
    owner.closure.isSome && (currentClosure owner owner.closure).isProven).map fun owner =>
      owner.ref.scope

def cancelScopeJobs (scope : Option Scope) : Except CoreError (List Outbound) :=
  terminateAll digests state context
    (state.allJobs.filter fun job =>
      !job.terminal &&
        job.resourceId.any (fun resource => !cancelSettled context.records context.run resource) &&
        (some job.scope = scope || job.scope ∈ closingScopes context ||
          terminationInspected context job))
    (inspectedBefore context)

def runJobsCancel (authority : DecisionId) : Except CoreError Change :=
  let stopped := (committedStop digests context.run).value?.any fun stop =>
    stop.decisionId = authority
  if !stopped || cancellingScope digests context ≠ some scope then .ok { state := state }
  else
    (cancelScopeJobs digests state context (some scope)).map fun requests =>
      { state := state, requests }

def cancelledAfterStop (change : Change) (context : EvaluationContext) : Except CoreError Change :=
  if context.run.status = .terminal then .ok change
  else
    (cancelScopeJobs digests change.state context (cancellingScope digests context)).map
      fun requests => { change with requests := change.requests ++ requests }

end

/-! ## The events of the subarea -/

def advanceMeasurements (digests : Digests) (key : MeasurementIdentity → String)
    (state : EvaluationState) (context : EvaluationContext) :
    EvaluationEvent → Except CoreError Change
  | .measurementRequested scope plan =>
    .ok (measurementRequested digests key state context scope plan)
  | .agentMeasurementRequested scope plan limit callId =>
    agentMeasurementRequested digests key state context scope plan limit callId
  | .measurementSubmissionObserved observation failure => do
    let change ← submissionObserved digests state context observation failure
    cancelledAfterStop digests change context
  | .registeredJobRequested request resourcePool expected =>
    .ok (registeredRequested digests state context request resourcePool expected)
  | .jobObserved resource observation facts failure => do
    let change ← jobObserved digests state context ⟨.inl resource, observation, facts, failure⟩
    cancelledAfterStop digests change context
  | .registeredJobObserved operationId observation facts => do
    let change ← jobObserved digests state context ⟨.inr operationId, observation, facts, none⟩
    cancelledAfterStop digests change context
  | .observationsDue nowAt => do
    let change ← pollDue state context nowAt
    cancelledAfterStop digests change context
  | .jobWaitLapsed owner requestId =>
    cancelledAfterStop digests (waitLapsed state context owner requestId) context
  | .jobTerminationRequested resource _ =>
    (terminate digests state context resource false).map fun requests =>
      { state := state, requests }
  | .jobsDrainRequested scope authority disposition =>
    drain digests state context scope authority disposition
  | .runJobsCancelRequested scope authority => runJobsCancel digests state context scope authority
  | .turnSuspended _ => refuse ["event", "turn_suspended"] "not a measurement event"
  | .deadlineReached _ _ => refuse ["event", "deadline_reached"] "not a measurement event"
  | .continuationJobsChanged _ _ =>
    refuse ["event", "continuation_jobs_changed"] "not a measurement event"
  | .continuationRetireRequested _ _ _ =>
    refuse ["event", "continuation_retire_requested"] "not a measurement event"
  | .continuationReopenRequested _ _ =>
    refuse ["event", "continuation_reopen_requested"] "not a measurement event"
  | .continuationScopeReopened _ _ _ =>
    refuse ["event", "continuation_scope_reopened"] "not a measurement event"

end VibeServeCore.Evaluation
