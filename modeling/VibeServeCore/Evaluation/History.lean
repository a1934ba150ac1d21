/- source: _evaluation_history.py
   digest: The measurement submissions of a scope, whether all concluded, and their history. -/

import VibeServeCore.RequestLedger

namespace VibeServeCore.Evaluation

open Types
open RequestLedger (conclusive)

variable (scope : Scope) (row : RequestRecord) (evaluation : EvaluationState) (run : RunState)
  (records : RecordsState)

def expectedMeasurement (job : OwnedJob) : Option MeasurementIdentity :=
  match job.origin with
  | .registered _ _ _ expected => expected
  | .measurement _ _ => none

def submissionRows : List RequestRecord :=
  records.records.filter fun row =>
    row.request.scope = scope &&
      match row.request.body with
      | .submitMeasurement _ => true
      | .executeRegisteredOperation .. =>
        row.lifecycle = .ownedJob && evaluation.registeredJobs.any fun job =>
          job.origin.submission = row.requestId && (expectedMeasurement job).isSome
      | _ => false

def attemptSettled : Bool :=
  (submissionRows scope evaluation records).all fun row => row.observation.any conclusive

def builtinIdentity (plan : MeasurementPlan) (evaluation : EvaluationState) :
    Except CoreError (Option MeasurementIdentity) :=
  match evaluation.jobs.filter fun job => job.origin.submission = row.requestId with
  | [job] =>
    if job.scope ≠ row.request.scope || job.origin ≠ .measurement row.requestId plan ||
        job.observation ≠ row.observation ||
        row.observation.any fun observation =>
          observation.accepted && observation.resourceId ≠ job.resourceId then
      .ok none
    else
      match plan.candidate.revision? with
      | none => .ok none
      | some candidate =>
        match MeasurementIdentity.fromPlan plan candidate with
        | some identity => .ok (some identity)
        | none => .error (.validation "identity" "not a measurement identity")
  | _ => .ok none

def declaresJob (wire : OperationWire) : Bool :=
  match run.capabilities.operations.filter fun row => row.kind = wire.schemaRef.kind with
  | [row] =>
    row.requestSchema = wire.schemaRef.requestSchema &&
      row.outcomeSchema = wire.schemaRef.outcomeSchema &&
      row.lifecycle = wire.schemaRef.lifecycle && wire.schemaRef.lifecycle = .ownedJob
  | _ => false

def registeredIdentity (operationId : OperationId) (wire : OperationWire)
    (evaluation : EvaluationState) (run : RunState) : Option MeasurementIdentity :=
  if !declaresJob run wire then none
  else
    match evaluation.registeredJobs.filter fun job => job.origin.submission = row.requestId with
    | [job] =>
      let ownOperation := match job.origin with
        | .registered _ operation _ _ => decide (operation = operationId)
        | .measurement _ _ => false
      if !ownOperation || job.scope ≠ row.request.scope || job.observation ≠ row.observation ||
          row.observation.any fun observation =>
            observation.accepted && observation.resourceId ≠ job.resourceId then
        none
      else
        match run.receipts.filter fun receipt => some receipt.decisionId = row.request.decisionId with
        | [receipt] =>
          match receipt.decision with
          | some (.work ⟨decisionId, scope, .operation command⟩) =>
            if receipt.feedback.isAccepted && receipt.decisionId = decisionId &&
                receipt.feedback.decisionId = receipt.decisionId &&
                row.requestId ∈ receipt.requestIds && scope = row.request.scope &&
                command.registeredWire = some wire && command.registeredMeasurement.isSome &&
                command.registeredMeasurement = command.normalizedMeasurement &&
                command.normalizedMeasurement = expectedMeasurement job then
              command.registeredMeasurement
            else none
          | _ => none
        | _ => none
    | _ => none

def submissionIdentityOf : Except CoreError (Option MeasurementIdentity) :=
  let request := row.request
  if request.requestId ≠ some row.requestId || (row.observation.any fun observation =>
      observation.requestId ≠ row.requestId || observation.scope ≠ request.scope ||
        observation.admissionId ≠ request.admissionId) || row.lifecycle ≠ .ownedJob then
    .ok none
  else
    match request.body with
    | .submitMeasurement plan => builtinIdentity row plan evaluation
    | .executeRegisteredOperation operationId wire _ _ =>
      .ok (registeredIdentity row operationId wire evaluation run)
    | _ => .ok none

def preparedRequest : SubmissionReceipt → Option RequestId
  | .prepared requestId _ _ _ => some requestId
  | .historical _ _ => none

def budgeted (identity : MeasurementIdentity) (evaluation : EvaluationState) : Bool :=
  match evaluation.submissionBudgets.filter fun budget =>
      budget.scope = row.request.scope && budget.identity = identity with
  | [budget] =>
    (budget.receipts.filter fun receipt =>
      preparedRequest receipt = some row.requestId).length = 1
  | _ => false

/-! ## The history -/

def factsRefused (observation : Observation) (facts : EvaluationTerminalFacts) : Bool :=
  !observation.accepted && (!observation.status.retryableFailure || !facts.stages.isEmpty ||
    facts.tracebackSignature.isSome || facts.failedBenchmark.isSome || facts.accuracyPassed)

def historyRecord (ordinal : Nat) (row : RequestRecord) :
    Except CoreError (Option AttemptEvaluationRecord) := do
  match ← submissionIdentityOf row evaluation run, row.observation with
  | some identity, some observation =>
    let names := identity.stages.map MeasurementStageIdentity.stageId
    if !budgeted row identity evaluation ||
        (row.evaluationResult.any fun result =>
          result.stages.any fun stage => stage.stageId ∉ names) ||
        observation.requestId ≠ row.requestId || observation.scope ≠ scope ||
        !conclusive observation || observation.accepted && row.evaluationResult.isNone then
      return none
    else
      let facts := row.evaluationResult.getD {}
      if factsRefused observation facts then
        .error (.validation "terminal_observation"
          "nonacceptance cannot prove scientific execution facts")
      else
        return some { facts with
          ordinal, submissionId := row.requestId, scope, terminalObservation := observation }
  | _, _ => return none

def certifiedEmpty (owner : AttemptView) (run : RunState) : Bool :=
  let previous := owner.evaluationHistory
  if previous.availability = .complete then previous.coveredSubmissions.isEmpty
  else
    match run.receipts.filter fun receipt => some receipt.decisionId = owner.admissionId with
    | [receipt] =>
      match receipt.decision with
      | some (.work ⟨decisionId, scope, .startAttempt attemptId itemId workspace budget _⟩) =>
        receipt.feedback.isAccepted && receipt.feedback.decisionId = receipt.decisionId &&
          receipt.decisionId = decisionId && attemptId = owner.attemptId &&
          scope.owner = .run run.runId && scope.generation = run.generation &&
          scope.generation = owner.generation && itemId = owner.itemId &&
          workspace = owner.workspace && budget = owner.budget &&
          previous.coveredSubmissions.isEmpty && previous.records.isEmpty
      | _ => false
    | _ => false

def expectedSubmissions : List RequestId :=
  ((evaluation.jobs.filter fun job => job.scope = scope) ++
      (evaluation.registeredJobs.filter fun job =>
        job.scope = scope && (expectedMeasurement job).isSome)).map (·.origin.submission) ++
    (evaluation.submissionBudgets.filter fun budget => budget.scope = scope).flatMap fun budget =>
      budget.receipts.filterMap preparedRequest

def produceHistory (owner : AttemptView) (run : RunState) :
    Except CoreError AttemptEvaluationHistory := do
  let submissions := submissionRows scope evaluation records
  let ids := submissions.map RequestRecord.requestId
  let receipts := (evaluation.submissionBudgets.filter fun budget => budget.scope = scope).flatMap
    SubmissionBudget.receipts
  let rows ← (submissions.zipIdx 1).mapM fun entry =>
    historyRecord scope evaluation run entry.2 entry.1
  let produced := rows.filterMap id
  let complete := (expectedSubmissions scope evaluation).all (· ∈ ids) && decide ids.Nodup &&
    produced.length = ids.length && receipts.all (fun receipt => (preparedRequest receipt).isSome) &&
    (!ids.isEmpty || certifiedEmpty owner run)
  if !decide (produced.map AttemptEvaluationRecord.submissionId).Nodup then
    .error (.validation "records" "duplicate submission ID")
  else if !decide ids.Nodup then
    .error (.validation "covered_submissions" "duplicate submission ID")
  else
    return {
      availability := if complete then .complete else .unavailable, coveredSubmissions := ids
      records := produced }

end VibeServeCore.Evaluation
