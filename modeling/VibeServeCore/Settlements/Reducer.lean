/- source: _settlement.py, _adoption.py, settlement.py
   digest: Cleanup-gated settlement of attempts, and adoption of the winner in bounded rounds. -/

import VibeServeCore.Adoption

namespace VibeServeCore.Settlements

open Types
open Proofs (Digests)
open Adoption (rounds adoptId verifyId awaitsInspection phase fencesRootMutation)

abbrev Change := AreaChange SettlementState

def owner (context : SettlementContext) (attempt : AttemptRef) : Option AttemptView :=
  context.attempts.attempts.find? fun row => row.ref = attempt

def jobProves (evidence : EvidenceRef) (candidate : RevisionRef) (scope : Scope) (job : OwnedJob) :
    Bool :=
  match job.origin, job.observation with
  | .measurement submissionId plan, some observation =>
    job.scope = scope && submissionId = evidence.sourceRequest && job.terminal &&
      job.status = .succeeded && observation.terminal && observation.accepted &&
      observation.status = .succeeded && observation.scope = scope &&
      observation.requestId = evidence.sourceRequest && observation.resourceId = job.resourceId &&
      evidence.observationSequence ≤ observation.sequence && job.evidence.contains evidence &&
      plan.candidate = .revision candidate && plan.purpose = evidence.purpose &&
      plan.fingerprints = evidence.fingerprints
  | _, _ => false

def evidenceValid (evidence : EvidenceRef) (candidate : RevisionRef) (scope : Scope)
    (context : SettlementContext) : Bool :=
  evidence.scope = scope && evidence.candidate = candidate && evidence.status = .succeeded &&
    evidence.fingerprints = context.run.fingerprints &&
    context.evaluation.jobs.any (jobProves evidence candidate scope)

def turnRequestValid (record : RequestRecord) (invocation : Invocation) : Bool :=
  invocation.registeredOperation.isNone && record.request.body.turn? = some invocation.turn

def sourceRow (source : InvocationRef) (invocation : Invocation) (scope : Scope) : Bool :=
  invocation.scope = scope && source.generation = scope.generation &&
    source.sessionId = invocation.turn.session.sessionId &&
    source.invocationId = invocation.turn.invocationId

def outputAccepted (invocation : Invocation) (observation : Observation) (scope : Scope) : Bool :=
  invocation.phase = .terminal && observation.scope = scope && observation.accepted &&
    observation.terminal && observation.status = .succeeded &&
    invocation.outputSchema = some invocation.turn.outputSchema

def authorized (assessment : AssessmentProposal) (invocation : Invocation)
    (context : SettlementContext) : Bool :=
  context.run.requirements.assessmentAuthorities.any fun authority =>
    authority.kind = assessment.kind && authority.roleId = invocation.turn.session.roleId &&
      some authority.outputSchema = invocation.outputSchema &&
      authority.outputSchema.version = assessment.schemaVersion

def attributed (source : InvocationRef) (assessment : AssessmentProposal) (owner : AttemptView)
    (invocation : Invocation) : Bool :=
  (owner.checkpoints.any fun checkpoint =>
    checkpoint.invocation = some source && some checkpoint.revision = assessment.candidate) ||
  match invocation.turn.workspace with
  | .ref workspace => workspace.scope = owner.ref.scope && workspace.mode = .readOnlyRevision &&
      some workspace.revision = assessment.candidate
  | .scope _ => false

section

-- `validate_json`: the text is one JSON value; the parser is the host's.
variable (validJson : String → Bool)

def invocationValid (source : InvocationRef) (assessment : AssessmentProposal)
    (owner : AttemptView) (context : SettlementContext) : Bool :=
  let scope := owner.ref.scope
  match context.sessions.invocations.find? fun row => row.invocation = source with
  | none => false
  | some invocation =>
    match invocation.observation, invocation.outputJson with
    | some observation, some output =>
      sourceRow source invocation scope && outputAccepted invocation observation scope &&
        (context.records.records.any fun record =>
          record.requestId = observation.requestId &&
            record.request.requestId = some observation.requestId &&
            record.request.scope = scope && turnRequestValid record invocation) &&
        validJson output && authorized assessment invocation context &&
        attributed source assessment owner invocation
    | _, _ => false

def sourceEvidence (context : SettlementContext) (names : EvidenceRef → Bool) :
    Option EvidenceRef :=
  match context.evaluation.evidence.filter names with
  | [evidence] => some evidence
  | _ => none

def sourceValid (assessment : AssessmentProposal) (settlement : Settlement) (owner : AttemptView)
    (context : SettlementContext) (source : AssessmentSource) : Bool :=
  let proves := fun names =>
    match sourceEvidence context names, settlement.candidate with
    | some evidence, some candidate =>
      evidence.kind.assessment = assessment.kind &&
        evidenceValid evidence candidate owner.ref.scope context
    | _, _ => false
  match source with
  | .evidenceKey key => proves fun evidence => evidence.key = key
  | .evidenceId identity => proves fun evidence => evidence.evidenceId = identity
  | .invocation ref => invocationValid validJson ref assessment owner context

def assessmentValid (settlement : Settlement) (owner : AttemptView) (context : SettlementContext)
    (assessment : AssessmentProposal) : Bool :=
  assessment.candidate = settlement.candidate && !assessment.sources.isEmpty &&
    assessment.sources.eraseDups.length = assessment.sources.length &&
    assessment.sources.all (sourceValid validJson assessment settlement owner context)

def assessmentsSatisfied (settlement : Settlement) (requirements : EvidenceRequirements) : Bool :=
  requirements.requiredAssessments.all fun kind =>
    (settlement.assessments.any fun item => item.kind = kind) &&
      settlement.assessments.all fun item => item.kind ≠ kind || item.verdict = .satisfied

def requirementMet (candidate : RevisionRef) (scope : Scope) (context : SettlementContext)
    (required : EvidenceRequirement) : Bool :=
  context.evaluation.evidence.any fun evidence =>
    evidence.kind = required.kind && evidence.provenance = required.provenance &&
      (required.purpose.isNone || required.purpose = some evidence.purpose) &&
      evidenceValid evidence candidate scope context

def eligible (settlement : Settlement) (owner : AttemptView) (context : SettlementContext) :
    Bool :=
  match settlement.candidate with
  | none => false
  | some candidate =>
    let scope := owner.ref.scope
    settlement.eligible && settlement.outcome = .succeeded && settlement.retention = .candidate &&
      settlement.assessments.all (assessmentValid validJson settlement owner context) &&
      assessmentsSatisfied settlement context.run.requirements &&
      -- Requirements constrain authority; an empty universal check provides none.
      ((settlement.assessments.any fun item => item.verdict = .satisfied) ||
        context.evaluation.evidence.any fun evidence =>
          evidenceValid evidence candidate scope context) &&
      context.run.requirements.requiredEvidence.all (requirementMet candidate scope context)

end

def normalizeChoice (settlement : Settlement) (owner : Option AttemptView) : Settlement :=
  let closure := owner.bind AttemptView.closure
  if closure.any AttemptClosure.retentionRefused then
    { settlement with outcome := .failed, eligible := false, retention := .discard }
  else if settlement.outcome = .cancelled ||
      closure.any fun recorded => recorded.disposition = .cancel then
    { settlement with outcome := .cancelled, eligible := false, retention := .discard }
  else settlement

def released (owner : AttemptView) (settlement : Settlement) : Bool :=
  owner.phase = .terminal &&
    (owner.closure.any fun closure =>
      (closure.disposition = .settle || closure.disposition = .cancel) &&
        some closure.admissionId = owner.admissionId) &&
    owner.releaseDependencies.isEmpty && owner.pendingRecords.isEmpty &&
    (settlement.retention = .discard ||
      owner.checkpoints.any fun checkpoint =>
        some checkpoint.revision = settlement.candidate &&
          checkpoint.retention = settlement.retention)

def settleOf : Command → Option (WithdrawTarget × Settle)
  | .work { body := .withdraw target (.settle proposal), .. } => some (target, proposal)
  | _ => none

def requested (settlement : Settlement) (proposal : Settle) : Settlement :=
  { settlement with
    candidate := proposal.candidate, assessments := proposal.assessments
    outcome := proposal.outcome, retention := proposal.retention, eligible := proposal.eligible }

def acceptedSettlement (settlement : Settlement) (receipt : Option DecisionReceipt) : Settlement :=
  match (receipt.bind DecisionReceipt.decision).bind settleOf with
  | some (_, proposal) => requested settlement proposal
  | none => settlement

def differingField (expected settlement : Settlement) : Option String :=
  if expected.candidate ≠ settlement.candidate then some "candidate"
  else if expected.assessments ≠ settlement.assessments then some "assessments"
  else if expected.outcome ≠ settlement.outcome then some "outcome"
  else if expected.retention ≠ settlement.retention then some "retention"
  else if expected.eligible ≠ settlement.eligible then some "eligible"
  else none

def keepsToDecision (settlement canonical normalized : Settlement) : Except CoreError Unit :=
  if settlement = canonical || settlement = normalized then .ok ()
  else
    let expected := if settlement.outcome = .cancelled then normalized else canonical
    match differingField expected settlement with
    | some field => .error (.validation field "differs from canonical settlement decision")
    | none => .ok ()

def canonicalReceipt (context : SettlementContext) (settlement : Settlement) :
    Except CoreError (Option DecisionReceipt) :=
  match context.run.receipts.find? fun receipt =>
      settlement.settlementId = ⟨"settlement:" ++ receipt.decisionId.root⟩ with
  | none => .ok none
  | some receipt =>
    match receipt.decision with
    | none => .ok (some receipt)
    | some decision =>
      match settleOf decision with
      | none =>
        .error (.validation "settlement_id" "does not identify a settlement decision")
      | some (target, _) => do
        if decision.decisionId ≠ receipt.decisionId || target ≠ .attempt settlement.attempt then
          .error (.validation "attempt" "differs from canonical settlement decision")
        let canonical := acceptedSettlement settlement (some receipt)
        keepsToDecision settlement canonical
          (normalizeChoice canonical (owner context settlement.attempt))
        return some receipt

def receiptActive (receipt : DecisionReceipt) : Bool :=
  receipt.feedback.isAccepted && receipt.feedback.decisionId = receipt.decisionId &&
    receipt.completion.isNone && (receipt.decision.bind settleOf).isSome

def refuseProposal (state : SettlementState) (context : SettlementContext)
    (proposal : Settlement) (code : RejectionCode) (detail : String) :
    Except CoreError Change := do
  let receipt := (← canonicalReceipt context proposal).filter receiptActive
  return {
    state := state
    events := receipt.toList.map fun receipt =>
      .feedback (.rejected ⟨receipt.decisionId, code, ["target"], detail, none⟩) }

section
variable (validJson : String → Bool) (state : SettlementState) (context : SettlementContext)

def finalChoice (pending : Settlement) (receipt : Option DecisionReceipt) (owner : AttemptView) :
    Settlement :=
  let final := normalizeChoice (acceptedSettlement pending receipt) (some owner)
  { final with eligible := eligible validJson final owner context }

def finalize (pending : Settlement) : Except CoreError Change :=
  match owner context pending.attempt with
  | none => .ok { state := state }
  | some owner => do
    let receipt ← canonicalReceipt context pending
    if receipt.any fun receipt => !receiptActive receipt then return { state := state }
    let final := finalChoice validJson context pending receipt owner
    if !released owner final then return { state := state }
    return {
      state := { state with
        pending := state.pending.filter fun item => item.attempt ≠ final.attempt
        settlements := state.settlements ++ [final] }
      signals := receipt.toList.map fun receipt =>
        .decisionCompleted receipt.decisionId .succeeded
      events := [.attemptSettled final] }

def acceptProposal (proposal : Settlement) (owner : AttemptView) : Except CoreError Change := do
  let receipt ← canonicalReceipt context proposal
  if receipt.any fun receipt => !receiptActive receipt then return { state := state }
  let settlement := normalizeChoice (acceptedSettlement proposal receipt) (some owner)
  if settlement.retention ≠ .discard && settlement.candidate.isNone then
    .error (.validation "candidate" "retained settlement requires an explicit revision")
  if released owner settlement then finalize validJson state context settlement
  else
    return {
      state := { state with pending := state.pending ++ [settlement] }
      signals := [.attempts (.retentionRequired settlement.attempt settlement.retention
        settlement.candidate)] }

def submit (proposal : Settlement) : Except CoreError Change :=
  let existing := state.settlements ++ state.pending
  match existing.find? fun item => item.attempt = proposal.attempt with
  | some previous =>
    if previous.settlementId = proposal.settlementId then .ok { state := state }
    else refuseProposal state context proposal .alreadySettled
      "attempt already has a committed settlement choice"
  | none =>
    if existing.any fun item => item.settlementId = proposal.settlementId then
      .error (.validation "settlement_id" "already belongs to another attempt")
    else
      match owner context proposal.attempt with
      | none => refuseProposal state context proposal .ownership
          "attempt does not have current ownership"
      | some owner =>
        if owner.closure.any fun closure => closure.disposition = .park then
          refuseProposal state context proposal .closedScope
            "parked attempt does not accept settlement completion"
        else acceptProposal validJson state context proposal owner

def cancelledChoice (attempt : AttemptRef) : Option Settlement :=
  match (owner context attempt).bind AttemptView.closure with
  | none => none
  | some closure =>
    if closure.disposition ≠ .cancel ||
        (state.settlements ++ state.pending).any fun item => item.attempt = attempt then
      none
    else
      some {
        settlementId := ⟨"settlement:" ++ closure.authority.root⟩, attempt, candidate := none
        assessments := [], eligible := false, retention := .discard, outcome := .cancelled }

def finalizeSome : Option Settlement → Except CoreError Change
  | none => .ok { state := state }
  | some pending => finalize validJson state context pending

def advance : SettlementEvent → Except CoreError Change
  | .assessmentSubmitted proposal => submit validJson state context proposal
  | .ownershipSettled attempt released blocked =>
    if released && !blocked then
      finalizeSome validJson state context
        ((state.pending.find? fun item => item.attempt = attempt).or
          (cancelledChoice state context attempt))
    else .ok { state := state }
  | .attemptSettled proposal =>
    finalizeSome validJson state context (state.pending.find? fun item => item = proposal)
  | .winnerProposed _ | .adoptionObserved .. =>
    .error (.validation "event.kind" "event belongs to settlement adoption")

end

section
variable (state : SettlementState) (context : SettlementContext) (selection : Selection)

def mayStartRound : Bool :=
  rounds context.records selection < context.run.limits.maxAdoptionRounds

def ledgerHas (records : RecordsState) (requestId : RequestId) (selection : Selection) : Bool :=
  records.records.any fun row => row.requestId = requestId &&
    (row.request.body = .adoptRevision selection || row.request.body = .verifyAdoption selection)

def runScope (run : RunState) : Scope := ⟨.run run.runId, run.generation⟩

def adoptionLimit (run : RunState) : Seconds :=
  max (run.deadlineAt - run.nowAt) run.limits.reconciliationBound

def latestRound (records : RecordsState) (selection : Selection) : Nat :=
  rounds records selection - 1

def proposes (receipt : DecisionReceipt) : Bool :=
  (match receipt.decision with
    | some (.work { body := .proposeWinner proposed, .. }) => proposed = selection
    | _ => false) &&
    receipt.feedback.isAccepted && receipt.completion.isNone

def proposer : Option DecisionId :=
  (context.run.receipts.reverse.find? (proposes selection)).map DecisionReceipt.decisionId

def refuse (code : RejectionCode) (detail : String) : Except CoreError Change :=
  match proposer context selection with
  | none => .error (.validation "selection" detail)
  | some decision =>
    .ok { state, events := [.feedback (.rejected ⟨decision, code, ["selection"], detail, none⟩)] }

def completion (status : CompletionStatus) : List Signal :=
  (proposer context selection).toList.map fun decision => .decisionCompleted decision status

def retains : Selection → Bool
  | .trustedBaseline _ => false
  | .retainedCandidate settlementId revision =>
    match state.settlements.filter fun row => row.settlementId = settlementId with
    | [row] => row.eligible && row.retention = .candidate && row.candidate = some revision
    | _ => false

def accuracyProof (evaluation : EvaluationState) (candidate : RevisionRef) :
    Option EvidenceRef :=
  match evaluation.evidence.filter fun item =>
      item.candidate = candidate && item.kind = .correctness && item.status = .succeeded &&
        item.provenance = .trusted && item.acceptanceReceipt.isSome with
  | [proof] => some proof
  | _ => none

def ineligible : Option String :=
  match selection with
  | .trustedBaseline revision =>
    if revision ≠ context.run.baseline then
      some "trusted baseline differs from the run's baseline"
    else none
  | .retainedCandidate _ revision =>
    if !retains state selection then
      some "selection is not an eligible retained candidate of this run"
    else if (context.run.task.isNone || context.run.task.any TaskTerms.requiresAccuracyProof) &&
        (accuracyProof context.evaluation revision).isNone then
      some "selected revision has no accepted accuracy proof"
    else none

def rootHolder : Bool :=
  context.attempts.attempts.any fun attempt =>
    attempt.workspace.mode = .exclusiveRoot &&
      (!(attempt.phase = .queued || attempt.phase = .terminal || attempt.phase = .parked) ||
        !attempt.releaseDependencies.isEmpty || !attempt.pendingRecords.isEmpty)

end

/-! ## Rounds -/

section
variable (digests : Digests) (state : SettlementState) (context : SettlementContext)
  (adoption : Adoption) (observation : Observation) (selection : Selection) (round : Nat)

def adopt : Outbound :=
  within
    { requestId := some (adoptId digests selection round), scope := runScope context.run
      body := .adoptRevision selection }
    (adoptionLimit context.run)

def verify : Outbound :=
  within
    { requestId := some (verifyId digests selection round), scope := runScope context.run
      body := .verifyAdoption selection }
    (adoptionLimit context.run)

def withAdoption (requests : List Outbound) : Change :=
  { state := { state with adoption := some adoption }, requests }

def replay (adopting : Bool) : Change :=
  let latest := latestRound context.records selection
  let request := if adopting then adopt digests context selection latest
    else verify digests context selection latest
  let identity := if adopting then adoptId digests selection latest
    else verifyId digests selection latest
  { state, requests := if ledgerHas context.records identity selection then [] else [request] }

def existing : Option (Except CoreError Change) :=
  let same := (state.adoption.map Adoption.selection) = some selection
  match phase digests state.adoption context.records with
  | .done =>
    if same then some (.ok { state := state })
    else some (refuse state context selection .alreadySettled
      "a different winner is already adopted")
  | .adopting =>
    if same then some (.ok (replay digests state context selection true))
    else some (refuse state context selection .identityConflict "another adoption is in progress")
  | .verifying =>
    if same then some (.ok (replay digests state context selection false))
    else some (refuse state context selection .identityConflict "another adoption is in progress")
  | .idle | .failed => none

def start : Except CoreError Change :=
  match ineligible state context selection with
  | some reason => refuse state context selection .evidence reason
  | none =>
    if rootHolder context then
      refuse state context selection .dependency "an attempt still holds the root workspace"
    else if !mayStartRound context selection then
      refuse state context selection .budget "adoption retries are exhausted for this selection"
    else
      .ok (withAdoption state { selection := selection }
        [adopt digests context selection (rounds context.records selection)])

def propose : Except CoreError Change :=
  (existing digests state context selection).getD (start digests state context selection)

def fail (reason : AdoptionFailureReason) : Change where
  state :=
    let failed := { adoption with observation := some observation, failure := some reason }
    { state with adoption := some failed }
  signals := completion context adoption.selection .failed
  events := [.adoptionFailed adoption.selection reason observation
    (rounds context.records adoption.selection)]

def undecided : Bool :=
  observation.status = .pending || observation.retryable

def adoptObserved : Change :=
  let recorded := { adoption with observation := some observation }
  let selection := adoption.selection
  if undecided observation then withAdoption state recorded []
  else if !awaitsInspection observation then fail state context adoption observation .adoptFailed
  else if ledgerHas context.records (verifyId digests selection round) selection then
    withAdoption state recorded []
  else withAdoption state recorded [verify digests context selection round]

def verified (state : SettlementState) (context : SettlementContext) (selection : Selection)
    (observation : Observation) : Change where
  state :=
    let done := { selection, observation := some observation, verified := true }
    { state with adoption := some done }
  signals := completion context selection .succeeded
  events := [.adoptionResult selection observation]

def verifyObserved (revision : Option RevisionRef) (round : Nat) : Change :=
  let selection := adoption.selection
  if undecided observation then
    withAdoption state { adoption with observation := some observation } []
  else if observation.status = .succeeded && revision = some selection.revision then
    verified state context selection observation
  -- Applied content differs from the selection: definite, so no retry.
  else if observation.status = .succeeded then
    fail state context adoption observation .contentMismatch
  else if !awaitsInspection observation then
    fail state context adoption observation .verifyFailed
  else if mayStartRound context selection then
    withAdoption state { selection := selection }
      [adopt digests context selection (round + 1)]
  else fail state context adoption observation .retriesExhausted

def stale : Bool :=
  adoption.observation.any fun previous =>
    previous.requestId = observation.requestId && observation.sequence ≤ previous.sequence

def corrects : Bool :=
  (adoption.observation.any fun previous => previous.requestId = observation.requestId) &&
    observation.status ≠ .pending

def observe (revision : Option RevisionRef) : Change :=
  match state.adoption with
  | none => { state := state }
  | some adoption =>
    if adoption.verified || observation.scope ≠ runScope context.run then { state := state }
    else
      let selection := adoption.selection
      let latest := latestRound context.records selection
      let known := ledgerHas context.records observation.requestId selection
      let adopting := observation.requestId = adoptId digests selection latest && known
      let verifying := observation.requestId = verifyId digests selection latest && known
      let fresh := !stale adoption observation
      match phase digests state.adoption context.records with
      | .adopting =>
        if adopting && fresh then adoptObserved digests state context adoption observation latest
        else { state := state }
      | .verifying =>
        if verifying && fresh then
          verifyObserved digests state context adoption observation revision latest
        else if adopting && fresh && corrects adoption observation then
          adoptObserved digests state context adoption observation latest
        else { state := state }
      | .idle | .done | .failed => { state := state }

def announceFenceLift (before : SettlementState) (context : SettlementContext) (change : Change) :
    Change :=
  if fencesRootMutation digests before context.records &&
      !fencesRootMutation digests change.state context.records then
    { change with signals := change.signals ++ [.scheduling .adoptionFenceLifted] }
  else change

def settle (validJson : String → Bool) (state : SettlementState) (context : SettlementContext) :
    SettlementEvent → Except CoreError Change
  | .winnerProposed selection =>
    (propose digests state context selection).map (announceFenceLift digests state context)
  | .adoptionObserved observation revision =>
    .ok (announceFenceLift digests state context
      (observe digests state context observation revision))
  | event => advance validJson state context event

end

end VibeServeCore.Settlements
